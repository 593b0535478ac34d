import CityGuide.Json.Scalar
import CityGuide.Store.Listing

namespace CityGuide

open Json.Decode Json.Shape Store

structure Follower where
  followerId : Uuid
  followingId : Uuid
  fullName : String
  userName : String
  profilePicture : Option String
  followedAt : Time.Instant
  deriving DecidableEq, Repr

namespace Follower

def table : String := "followers"

def source : Listing.Source where
  table := table
  called? := some "f"
  joins := [⟨"users", "u", "id", ⟨"f", "follower_id"⟩⟩]
  columns := [⟨"following_id", .uuid, none⟩, ⟨"follower_id", .uuid, none⟩,
    ⟨"created_at", .timestamp, none⟩, ⟨"full_name", .text, some "u"⟩,
    ⟨"user_name", .text, some "u"⟩]

def fields : List Sql.Field :=
  [.column ⟨"f", "follower_id"⟩, .column ⟨"f", "following_id"⟩, .column ⟨"u", "full_name"⟩,
    .column ⟨"u", "user_name"⟩, .column ⟨"u", "profile_picture"⟩,
    .named ⟨"f", "created_at"⟩ "followed_at"]

def toJson (f : Follower) : Json :=
  .record [("follower_id", .uuid f.followerId), ("following_id", .uuid f.followingId),
    ("full_name", .text f.fullName), ("user_name", .text f.userName),
    ("profile_picture", .opt .text f.profilePicture), ("followed_at", .time f.followedAt)]

def ofRow (r : Row) : Option Follower := do
  some {
    followerId := ← r.get "follower_id" Row.uuid
    followingId := ← r.get "following_id" Row.uuid
    fullName := ← r.get "full_name" Row.text
    userName := ← r.get "user_name" Row.text
    profilePicture := ← r.get "profile_picture" (Row.nullable Row.text)
    followedAt := ← r.get "followed_at" Row.timestamp }

structure Request where
  followingId : Uuid
  deriving DecidableEq, Repr

def Request.decode : Json.Decoder Request := (Request.mk <$> required "following_id" uuid).decode

structure Toggle where
  followerId : Uuid
  followingId : Uuid
  followed : Bool
  deriving DecidableEq, Repr

def Toggle.toJson (t : Toggle) : Json :=
  .record [("follower_id", .uuid t.followerId), ("following_id", .uuid t.followingId),
    ("followed", .bool t.followed)]

def keys (followerId followingId : Uuid) : List Sql.Assignment :=
  [("follower_id", .uuid followerId), ("following_id", .uuid followingId)]

def toggle (followerId followingId : Uuid) : Action Failure Toggle := do
  let outcome ← Action.transaction do
    let removed ← Action.touched (.delete .plain table (keys followerId followingId))
    if removed then pure (some false)
    else do
      let _ ← Action.run (.insert table (keys followerId followingId) .keepExisting)
      pure (some true)
  pure ⟨followerId, followingId, outcome.getD false⟩

def list (r : Listing.Request) : Action ListFailure (Listing.Page Follower) :=
  fetchPage source (source.select fields) ofRow r

end Follower

end CityGuide
