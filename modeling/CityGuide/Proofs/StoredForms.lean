import CityGuide.Guide.Business
import CityGuide.Listing.Page
import CityGuide.Proofs.Json.Restating

namespace CityGuide

open Json (Faithful ReadAs)
open Json.Shape (Gives Reads)

namespace Listing

theorem FilterKind.ofName?_name (k : FilterKind) : FilterKind.ofName? k.name = some k := by
  cases k <;> rfl

theorem directionOfName?_directionName (d : Direction) :
    directionOfName? (directionName d) = some d := by
  cases d <;> rfl

theorem Filter.readAs (f : Filter) : ReadAs Filter.decode f.toJson f :=
  ((Gives.map (.field (.text f.column) "column" .refused)).seq
    (.field (.choice f.kind.ofName?_name) "type" .refused)).seq
    (.field (.text f.value) "value" .refused) |>.decode (by decide)

theorem Filter.exact_toJson (f : Filter) : f.toJson.Exact := by
  simp [toJson, Json.Exact, Json.ExactMembers]

theorem OrderKey.readAs (k : OrderKey) : ReadAs OrderKey.decode k.toJson k :=
  ((Gives.map (.field (.text k.column) "column" .refused)).seq
    (.field (.choice (directionOfName?_directionName k.direction)) "direction" .refused))
    |>.decode (by decide)

theorem OrderKey.exact_toJson (k : OrderKey) : k.toJson.Exact := by
  simp [toJson, Json.Exact, Json.ExactMembers]

namespace Request

theorem word64_of_toNat (n : UInt64) : word64 (.number (some (.int n.toNat))) = .ok n := by
  have hrange : (0 : Int) ≤ n.toNat ∧ (n.toNat : Int) ≤ Text.maxWord 64 := by
    have hword : Text.maxWord 64 + 1 = UInt64.size := by decide
    have hn : n.toNat < UInt64.size := n.toNat_lt
    omega
  have hwhole : Json.Decode.whole 0 (Text.maxWord 64) (.number (some (.int n.toNat))) =
      .ok n.toNat := if_pos hrange
  rw [word64, Json.Decode.word, hwhole]
  simp [Except.map]

theorem isWord_toNat (n : UInt64) : Json.isWord n.toNat := by
  have hn : n.toNat < UInt64.size := n.toNat_lt
  exact ⟨by omega, by exact_mod_cast hn⟩

theorem readAs_word (n : UInt64) : ReadAs word64 (.int n.toNat) n := by
  intro j hj
  cases hj
  exact word64_of_toNat n

theorem readAs (r : Request) : ReadAs decode r.toJson r :=
  (((Gives.map (.field (readAs_word r.page) "page" .refused)).seq
    (.field (readAs_word r.limit) "limit" .refused)).seq
    (.field (.many fun f _ => f.readAs) "filters" (.anywhere []))).seq
    (.field (.many fun k _ => k.readAs) "order_by" (.anywhere [])) |>.decode (by decide)

theorem exact_toJson (r : Request) : r.toJson.Exact :=
  ⟨isWord_toNat r.page, isWord_toNat r.limit, Json.exactItems_map Filter.exact_toJson _,
    Json.exactItems_map OrderKey.exact_toJson _, trivial⟩

end Request

end Listing

theorem readAs_optText (o : Option String) :
    ReadAs (Json.Decode.opt Json.Decode.text) (.opt .text o) o :=
  .opt nofun fun s _ => .text s

theorem exact_optText (o : Option String) : (Json.opt .text o).Exact := by
  cases o <;> trivial

theorem ContactInfo.readAs (c : ContactInfo) : ReadAs decode c.toJson c :=
  ((Gives.map (.field (readAs_optText c.phone) "phone" (.anywhere .none))).seq
    (.field (readAs_optText c.email) "email" (.anywhere .none))).seq
    (.field (readAs_optText c.website) "website" (.anywhere .none)) |>.decode (by decide)

theorem ContactInfo.exact_toJson (c : ContactInfo) : c.toJson.Exact :=
  ⟨exact_optText c.phone, exact_optText c.email, exact_optText c.website, trivial⟩

theorem Hours.gives_day (o : Option String) (name : String) :
    (day name).Gives [(name, .opt .text o)] o := .field (readAs_optText o) name (.anywhere .none)

theorem Hours.readAs (h : Hours) : ReadAs decode h.toJson h :=
  ((((((Gives.map (gives_day h.monday "monday")).seq
    (gives_day h.tuesday "tuesday")).seq
    (gives_day h.wednesday "wednesday")).seq
    (gives_day h.thursday "thursday")).seq
    (gives_day h.friday "friday")).seq
    (gives_day h.saturday "saturday")).seq
    (gives_day h.sunday "sunday") |>.decode (by decide)

theorem Hours.exact_toJson (h : Hours) : h.toJson.Exact :=
  ⟨exact_optText h.monday, exact_optText h.tuesday, exact_optText h.wednesday, exact_optText h.thursday,
    exact_optText h.friday, exact_optText h.saturday, exact_optText h.sunday, trivial⟩

namespace Attachment

theorem readAs {a : Attachment} (ha : a.createdAt.IsReal) : ReadAs decode a.toJson a :=
  (((Gives.map (.field (.uuid a.id) "id" .refused)).seq
    (.field (.text a.filepath) "filepath" .refused)).seq
    (.field (.text a.contentType) "content_type" .refused)).seq
    (.field (.instant ha) "created_at" .refused) |>.decode (by decide)

theorem isReal_of_decode {d : Json.Document} {a : Attachment} (h : decode d = .ok a) :
    a.createdAt.IsReal := by
  have htext (key : String) := Reads.required key Json.Decode.text rfl
  have hid := Reads.required "id" Json.Decode.uuid rfl
  have htime := Reads.required "created_at" Json.Decode.instant rfl
  have hreads :=
    (((hid.map (f := Attachment.mk)).seq (htext "filepath")).seq (htext "content_type")).seq htime
  obtain ⟨_, createdAt, hfirst, htime, rfl⟩ := Json.seq_eq_ok.mp (hreads.decode (by decide) h)
  obtain ⟨_, contentType, hpath, -, rfl⟩ := Json.seq_eq_ok.mp hfirst
  obtain ⟨_, filepath, hid, -, rfl⟩ := Json.seq_eq_ok.mp hpath
  obtain ⟨id, -, hmk⟩ := Json.bind_eq_ok.mp hid
  obtain rfl := Except.ok.inj hmk
  exact Json.isReal_of_instant htime

theorem exact_toJson (a : Attachment) : a.toJson.Exact := by
  simp [toJson, Json.uuid, Json.time, Json.Exact, Json.ExactMembers]

end Attachment

theorem stored_forms_read_back :
    Faithful (fun _ => True) Listing.Request.toJson Listing.Request.decode ∧
      Faithful (fun _ => True) Listing.Filter.toJson Listing.Filter.decode ∧
      Faithful (fun _ => True) Listing.OrderKey.toJson Listing.OrderKey.decode ∧
      Faithful (fun _ => True) ContactInfo.toJson ContactInfo.decode ∧
      Faithful (fun _ => True) Hours.toJson Hours.decode ∧
      Faithful (fun a => a.createdAt.IsReal) Attachment.toJson Attachment.decode := by
  refine ⟨?_, ?_, ?_, ?_, ?_, ?_⟩
  · exact .of_readAs Listing.Request.exact_toJson (fun r _ => r.readAs) fun _ => trivial
  · exact .of_readAs Listing.Filter.exact_toJson (fun f _ => f.readAs) fun _ => trivial
  · exact .of_readAs Listing.OrderKey.exact_toJson (fun k _ => k.readAs) fun _ => trivial
  · exact .of_readAs ContactInfo.exact_toJson (fun c _ => c.readAs) fun _ => trivial
  · exact .of_readAs Hours.exact_toJson (fun h _ => h.readAs) fun _ => trivial
  · exact .of_readAs Attachment.exact_toJson (fun _ => Attachment.readAs) Attachment.isReal_of_decode

theorem last_attachment_reads_back :
    (⟨Time.Instant.latest, 1999999999⟩ : Time.Instant).IsReal ∧
      Json.decodeText Attachment.decode
        (Attachment.toJson ⟨.nil, "a.png", "image/png", ⟨Time.Instant.latest, 1999999999⟩⟩).write =
          .ok ⟨.nil, "a.png", "image/png", ⟨Time.Instant.latest, 1999999999⟩⟩ := by
  have hreal : (⟨Time.Instant.latest, 1999999999⟩ : Time.Instant).IsReal :=
    ⟨by decide, .inr ⟨by decide, by decide⟩⟩
  obtain ⟨-, -, -, -, -, hattachments⟩ := stored_forms_read_back
  have hback := hattachments.back ⟨.nil, "a.png", "image/png", _⟩ hreal _ (.refl _)
  exact ⟨hreal, hback.2 (hattachments.exact _)⟩

end CityGuide
