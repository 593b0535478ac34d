import CityGuide.Guide.Business
import CityGuide.Proofs.Listing.Conjuncts
import CityGuide.Proofs.Sql.Rendering

namespace CityGuide.Listing

open Sql

namespace Source

def extended (s : Source) (fields : List Field) (more : List Join) (groups : List Column) :
    Select :=
  { s.select fields with joins := s.innerJoins ++ more, groups := groups }

theorem detailed_eq_extended (s : Source) (owner : AttachmentOwner) (name : String) :
    owner.detailed s name =
      s.extended [.allOf s.qualifier, .raw (AttachmentOwner.aggregate name) "attachments"]
        [⟨.left, ⟨owner.table, some name⟩, ⟨name, owner.ownerColumn⟩, ⟨s.qualifier, "id"⟩⟩]
        [⟨s.qualifier, "id"⟩] := rfl

def rowsText (s : Source) : String := (s.select []).rowsText

structure SameRows (s : Source) (fields : List Field) (more : List Join) (p : Predicate)
    (r : Request) (fetch count : Select) : Prop where
  counted : (Statement.select count).prepared.sql = "SELECT COUNT(*) FROM " ++ s.rowsText ++ p.text
  fetched : (Statement.select fetch).prepared.sql =
    "SELECT " ++ ", ".intercalate (fields.map Field.sql) ++ " FROM " ++ s.rowsText ++
      String.join (more.map Join.sql) ++ p.text ++ fetch.groupText ++ fetch.orderText ++
      " LIMIT " ++ Part.mark ((Statement.select count).prepared.values.length + 1) ++
      " OFFSET " ++ Part.mark ((Statement.select count).prepared.values.length + 2)
  bound : (Statement.select fetch).prepared.values =
    (Statement.select count).prepared.values ++ [.word r.limit, .word r.offset]
  unconditional : p = [] → p.text = ""
  conditional : p ≠ [] → ∃ asked, p.text = " WHERE " ++ asked
  plain : count = ⟨[.count], ⟨s.table, s.called?⟩, s.innerJoins, p, [], [], none⟩
  table : fetch.table = count.table
  joins : fetch.joins = count.joins ++ more

variable {s : Source} {fields : List Field} {more : List Join} {groups : List Column} {r : Request}
  {p : Predicate} {order : List (Column × Direction)} {compiled : Compiled}

theorem countOf_sql :
    (Statement.select (s.countOf p)).prepared.sql =
      "SELECT COUNT(*) FROM " ++ s.rowsText ++ p.text := by
  have hlead : "SELECT " ++ ", ".intercalate [Field.count.sql] ++ " FROM " =
      "SELECT COUNT(*) FROM " := by decide +kernel
  have hsections : (Statement.select (s.countOf p)).prepared.sql =
      "SELECT " ++ ", ".intercalate [Field.count.sql] ++ " FROM " ++ s.rowsText ++ p.text ++
        "" ++ "" ++ "" := Select.sql_eq _
  rw [hsections, hlead, String.append_empty, String.append_empty, String.append_empty]

theorem countOf_values :
    (Statement.select (s.countOf p)).prepared.values = Part.values p.clause := by
  rw [Select.values_eq]
  exact List.append_nil _

theorem extended_rowsText (fields : List Field) (more : List Join) (groups : List Column) :
    (s.extended fields more groups).rowsText = s.rowsText ++ String.join (more.map Join.sql) := by
  simp only [rowsText, Select.rowsText, extended, select, List.map_append, String.join_append,
    String.append_assoc]

theorem count_shares_rows (h : s.compile (s.extended fields more groups) r = .ok compiled) :
    ∃ p, s.predicate r.filters = .ok p ∧
      s.SameRows fields more p r compiled.fetch compiled.count := by
  obtain ⟨p, order, hp, -, rfl⟩ := compile_eq_ok.mp h
  refine ⟨p, hp, ?_⟩
  constructor
  case counted => exact countOf_sql
  case fetched =>
    have hrows : Select.rowsText { s.extended fields more groups with
        condition := p, order := order, window := some r.window } =
        s.rowsText ++ String.join (more.map Join.sql) := extended_rowsText fields more groups
    rw [Select.sql_eq, hrows, countOf_values]
    simp only [Select.windowText, String.append_assoc]
    rfl
  case bound =>
    rw [Select.values_eq, countOf_values]
    rfl
  case unconditional =>
    rintro rfl
    exact Predicate.text_nil
  case conditional => exact Predicate.text_of_ne_nil
  case plain => rfl
  case table => rfl
  case joins => rfl

def cafes : Request :=
  (((Request.ofPage 3 7).eq "category_id" "11111111-1111-1111-1111-111111111111").search
    ["name", "address"] "cafe").orderBy [.asc "name"]

theorem cafes_resolve :
    Business.source.resolve cafes.filters =
      .ok [(.eq "category_id" "11111111-1111-1111-1111-111111111111", ⟨"category_id", .uuid, none⟩),
        (.search "name" "cafe", ⟨"name", .text, none⟩),
        (.search "address" "cafe", ⟨"address", .text, none⟩)] := rfl

theorem cafes_share_rows :
    ∃ compiled p, Business.source.compile Business.detailed cafes = .ok compiled ∧ p ≠ [] ∧
      Business.source.SameRows
        [.allOf "b", .raw (AttachmentOwner.aggregate "ba") "attachments"]
        [⟨.left, ⟨"business_attachments", some "ba"⟩, ⟨"ba", "business_id"⟩, ⟨"b", "id"⟩⟩]
        p cafes compiled.fetch compiled.count := by
  have hsorts : Business.source.sorts cafes.order = .ok [(⟨"b", "name"⟩, .asc)] := rfl
  have hcompiled : Business.source.compile Business.detailed cafes = .ok _ :=
    compile_eq_ok.mpr ⟨_, _, predicate_eq_ok.mpr ⟨_, cafes_resolve, rfl⟩, hsorts, rfl⟩
  have hbase : Business.detailed = Business.source.extended _ _ _ := detailed_eq_extended ..
  obtain ⟨p, hp, hshared⟩ := count_shares_rows (hbase ▸ hcompiled)
  refine ⟨_, p, hcompiled, ?_, hshared⟩
  rintro rfl
  obtain ⟨resolved, hresolved, hnil⟩ := predicate_eq_ok.mp hp
  obtain rfl := conjuncts_eq_nil.mp hnil
  simp [cafes_resolve] at hresolved

end Source

end CityGuide.Listing
