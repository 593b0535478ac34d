import CityGuide.Sql.Statement

namespace CityGuide.Sql

inductive Spot where
  | code
  | quoted (mark : Char)
  | number (n : Nat)
  deriving DecidableEq

namespace Spot

def opened (c : Char) : Spot :=
  if c = '"' ∨ c = '\'' then .quoted c else if c = '$' then .number 0 else .code

def next : Spot → Char → Spot
  | code, c => opened c
  | quoted mark, c => if c = mark then .code else .quoted mark
  | number n, c =>
      match Text.digit? c with
      | some d => .number (10 * n + d)
      | none => opened c

def ended : Spot → Option Char → List Nat
  | number n, none => [n]
  | number n, some c => if Text.isDigit c then [] else [n]
  | _, _ => []

end Spot

def numbersFrom (spot : Spot) : List Char → List Nat
  | [] => spot.ended none
  | c :: cs => spot.ended (some c) ++ numbersFrom (spot.next c) cs

def Prepared.placeholders (p : Prepared) : List Nat := numbersFrom .code p.sql.toList

def passing (spot : Spot) : List Char → Option Spot
  | [] => some spot
  | c :: cs =>
      match spot with
      | .number _ => none
      | spot => passing (spot.next c) cs

theorem passing_code (c : Char) (cs : List Char) :
    passing .code (c :: cs) = passing (.opened c) cs := rfl

theorem passing_quoted (mark c : Char) (cs : List Char) :
    passing (.quoted mark) (c :: cs) = passing (if c = mark then .code else .quoted mark) cs := rfl

theorem passing_append (spot : Spot) (cs ds : List Char) :
    passing spot (cs ++ ds) = (passing spot cs).bind (passing · ds) := by
  induction cs generalizing spot with
  | nil => rfl
  | cons c cs ih =>
    cases spot with
    | code | quoted mark => exact ih _
    | number n => rfl

theorem numbersFrom_of_passing {spot spot' : Spot} {cs : List Char}
    (h : passing spot cs = some spot') (rest : List Char) :
    numbersFrom spot (cs ++ rest) = numbersFrom spot' rest := by
  induction cs generalizing spot with
  | nil =>
    obtain rfl := Option.some.inj h
    rfl
  | cons c cs ih =>
    cases spot with
    | code | quoted mark => exact ih h
    | number n => simp [passing] at h

def Headed (cs : List Char) : Prop := ∀ c ∈ cs.head?, Text.isDigit c = false

theorem Headed.append {cs ds : List Char} (h : Headed cs) (h' : Headed ds) : Headed (cs ++ ds) := by
  cases cs with
  | nil => exact h'
  | cons c cs => exact h

/-- A text that shows a reader no placeholder, whatever stands around it. -/
structure Neutral (s : String) : Prop where
  passing : passing .code s.toList = some .code
  headed : Headed s.toList

instance : (cs : List Char) → Decidable (Headed cs)
  | [] => isTrue fun _ h => by simp at h
  | c :: _ => decidable_of_iff (Text.isDigit c = false) (by simp [Headed])

instance (s : String) : Decidable (Neutral s) :=
  decidable_of_iff (Sql.passing .code s.toList = some .code ∧ Headed s.toList)
    ⟨fun h => ⟨h.1, h.2⟩, fun h => ⟨h.1, h.2⟩⟩

namespace Neutral

theorem empty : Neutral "" := by decide

theorem append {s t : String} (hs : Neutral s) (ht : Neutral t) : Neutral (s ++ t) where
  passing := by rw [String.toList_append, passing_append, hs.passing, Option.bind_some, ht.passing]
  headed := by
    rw [String.toList_append]
    exact hs.headed.append ht.headed

theorem intercalate {s : String} {ts : List String} (hs : Neutral s) (h : ∀ t ∈ ts, Neutral t) :
    Neutral (s.intercalate ts) := by
  induction ts with
  | nil => exact empty
  | cons t ts ih =>
    obtain ⟨ht, hts⟩ := List.forall_mem_cons.mp h
    cases ts with
    | nil => rwa [String.intercalate_singleton]
    | cons u ts =>
      rw [String.intercalate_cons_cons]
      exact (ht.append hs).append (ih hts)

theorem join {ts : List String} (h : ∀ t ∈ ts, Neutral t) : Neutral (String.join ts) := by
  induction ts with
  | nil => exact empty
  | cons t ts ih =>
    obtain ⟨ht, hts⟩ := List.forall_mem_cons.mp h
    rw [String.join_cons]
    exact ht.append (ih hts)

theorem quoteName (s : String) : Neutral (quoteName s) where
  passing := by
    -- A quotation mark in the name comes twice: the reader is out and at once in again.
    have hname : ∀ cs : List Char, Sql.passing (.quoted '"')
        (cs.flatMap fun c => if c = '"' then ['"', '"'] else [c]) = some (.quoted '"') := by
      intro cs
      induction cs with
      | nil => rfl
      | cons c cs ih =>
        rw [List.flatMap_cons, passing_append]
        by_cases hc : c = '"'
        · rw [if_pos hc]
          exact ih
        · rw [if_neg hc, passing_quoted, if_neg hc]
          exact ih
    rw [Sql.quoteName, String.toList_ofList, passing_code, passing_append]
    exact (congrArg (Option.bind · _) (hname s.toList)).trans rfl
  headed := by
    rw [Sql.quoteName, String.toList_ofList]
    rintro c ⟨⟩
    decide

end Neutral

namespace Part

theorem headed_placeholder (k : Nat) : Headed (placeholder k) := by
  rintro c ⟨⟩
  decide

theorem headed_chars {n : Nat} {ps : List Part} (h : ∀ s, .text s ∈ ps → Neutral s) :
    Headed (chars n ps) := by
  fun_induction chars n ps with
  | case1 => simp [Headed]
  | case2 n s ps ih =>
    exact (h s (List.mem_cons_self ..)).headed.append
      (ih fun t ht => h t (List.mem_cons_of_mem _ ht))
  | case3 n v ps ih | case4 n k ps ih =>
    exact (headed_placeholder _).append (ih fun t ht => h t (List.mem_cons_of_mem _ ht))

theorem numbersFrom_number {a k : Nat} {ds rest : List Char} (hd : Text.natFrom a ds = some k)
    (hr : Headed rest) : numbersFrom (.number a) (ds ++ rest) = k :: numbersFrom .code rest := by
  induction ds generalizing a with
  | nil =>
    obtain rfl := Option.some.inj hd
    cases rest with
    | nil => rfl
    | cons c cs =>
      have hc : Text.isDigit c = false := hr c rfl
      have hnext : Text.digit? c = none := by simpa [Text.isDigit] using hc
      simp [numbersFrom, Spot.ended, Spot.next, hc, hnext]
  | cons d ds ih =>
    obtain ⟨x, hx, hds⟩ := Option.bind_eq_some_iff.mp hd
    simp [numbersFrom, Spot.ended, Spot.next, Text.isDigit, hx, ih hds]

theorem numbersFrom_placeholder {k : Nat} {rest : List Char} (hr : Headed rest) :
    numbersFrom .code (placeholder k ++ rest) = k :: numbersFrom .code rest :=
  numbersFrom_number (Text.natFrom_decimal k) hr

theorem numbersFrom_chars {n : Nat} {ps : List Part} (h : ∀ s, .text s ∈ ps → Neutral s) :
    numbersFrom .code (chars n ps) = numbers n ps := by
  fun_induction chars n ps with
  | case1 => rfl
  | case2 n s ps ih =>
    rw [numbersFrom_of_passing (h s (List.mem_cons_self ..)).passing, numbers]
    exact ih fun t ht => h t (List.mem_cons_of_mem _ ht)
  | case3 n v ps ih | case4 n k ps ih =>
    have hrest : ∀ t, .text t ∈ ps → Neutral t := fun t ht => h t (List.mem_cons_of_mem _ ht)
    rw [numbersFrom_placeholder (headed_chars hrest), numbers, ih hrest]

theorem mem_numbers {n k : Nat} {ps : List Part} (h : WellNumbered n ps) :
    (k ∈ numbers n ps → 1 ≤ k ∧ k ≤ n + (values ps).length) ∧
      (n < k ∧ k ≤ n + (values ps).length → k ∈ numbers n ps) := by
  fun_induction numbers n ps with
  | case1 n =>
    simp only [values, List.length_nil]
    exact ⟨by simp, by omega⟩
  | case2 n s ps ih => exact ih h
  | case3 n v ps ih =>
    obtain ⟨hbounds, hall⟩ := ih h
    simp only [values, List.length_cons, List.mem_cons]
    constructor
    · rintro (rfl | hk)
      · omega
      · have := hbounds hk
        omega
    · intro hk
      by_cases hfirst : k = n + 1
      · exact .inl hfirst
      · exact .inr (hall (by omega))
  | case4 n j ps ih =>
    obtain ⟨hpos, hle, hrest⟩ := h
    obtain ⟨hbounds, hall⟩ := ih hrest
    simp only [values, List.mem_cons]
    constructor
    · rintro (rfl | hk)
      · omega
      · exact hbounds hk
    · exact fun hk => .inr (hall hk)

def Tidy : List Part → Prop
  | [] => True
  | .text s :: ps => Neutral s ∧ Tidy ps
  | .value _ :: ps => Tidy ps
  | .again _ :: _ => False

theorem Tidy.neutral {ps : List Part} (h : Tidy ps) {s : String} (hs : .text s ∈ ps) :
    Neutral s := by
  fun_induction Tidy ps with
  | case1 => simp at hs
  | case2 t ps ih =>
    rcases List.mem_cons.mp hs with heq | hs
    · exact Part.text.inj heq ▸ h.1
    · exact ih h.2 hs
  | case3 v ps ih => exact ih h (by simpa using hs)
  | case4 => exact h.elim

theorem Tidy.wellNumbered {ps : List Part} (h : Tidy ps) (n : Nat) : WellNumbered n ps := by
  fun_induction Tidy ps generalizing n with
  | case1 => trivial
  | case2 t ps ih => exact ih h.2 n
  | case3 v ps ih => exact ih h (n + 1)
  | case4 => exact h.elim

theorem tidy_append {ps qs : List Part} : Tidy (ps ++ qs) ↔ Tidy ps ∧ Tidy qs := by
  fun_induction Tidy ps with
  | case1 => simp
  | case2 s ps ih => simp only [List.cons_append, Tidy, ih, and_assoc]
  | case3 v ps ih => simpa only [List.cons_append, Tidy] using ih
  | case4 => simp [Tidy]

theorem tidy_enclosed {ps : List Part} (h : Tidy ps) : Tidy (enclosed ps) :=
  ⟨by decide, tidy_append.mpr ⟨h, by decide, trivial⟩⟩

theorem tidy_joined {separator : String} {pss : List (List Part)} (hs : Neutral separator)
    (h : ∀ ps ∈ pss, Tidy ps) : Tidy (joined separator pss) := by
  induction pss with
  | nil => trivial
  | cons ps more ih =>
    obtain ⟨hps, hmore⟩ := List.forall_mem_cons.mp h
    cases more with
    | nil => exact hps
    | cons qs rest => exact tidy_append.mpr ⟨hps, hs, ih hmore⟩

end Part

section Conditions

open CityGuide.Sql.Part

theorem Column.neutral (c : Column) : Neutral c.sql :=
  ((Neutral.quoteName _).append (by decide)).append (.quoteName _)

theorem Term.tidy (t : Term) : Tidy t.parts := by
  cases t with
  | equals c v => exact ⟨c.neutral.append (by decide), trivial⟩
  | like c cast pattern =>
    cases cast with
    | false => exact ⟨c.neutral.append (by decide), trivial⟩
    | true => exact ⟨(Neutral.append (by decide) c.neutral).append (by decide), trivial⟩
  | never => exact ⟨by decide, trivial⟩

theorem Term.tidy_beside (t : Term) : Tidy t.beside := by
  cases t with
  | equals c v => exact tidy (.equals c v)
  | like c cast pattern => exact tidy_enclosed (tidy _)
  | never => exact tidy_enclosed (tidy _)

namespace Predicate

theorem tidy_anyOf (ts : List Term) : Tidy (anyOf ts) := by
  refine tidy_joined (by decide) fun ps hps => ?_
  obtain ⟨t, -, rfl⟩ := List.mem_map.mp hps
  exact t.tidy_beside

theorem tidy_conjunct (ts : List Term) : Tidy (conjunct ts) := by
  fun_cases conjunct ts with
  | case1 t => exact t.tidy_beside
  | case2 ts => exact tidy_enclosed (tidy_anyOf ts)

theorem tidy_parts (p : Predicate) : Tidy p.parts := by
  fun_cases Predicate.parts p with
  | case1 t => exact t.tidy
  | case2 ts => exact tidy_anyOf ts
  | case3 =>
    refine tidy_joined (by decide) fun ps hps => ?_
    obtain ⟨ts, -, rfl⟩ := List.mem_map.mp hps
    exact tidy_conjunct ts

theorem tidy_clause (p : Predicate) : Tidy p.clause := by
  rw [clause]
  split
  · trivial
  · exact ⟨by decide, tidy_parts p⟩

end Predicate

def Field.Plain : Field → Prop
  | .raw s _ => Neutral s
  | .everything | .allOf _ | .column _ | .named _ _ | .count => True

theorem Field.Plain.neutral {f : Field} (h : f.Plain) : Neutral f.sql := by
  cases f with
  | everything | count => decide
  | allOf q => exact (Neutral.quoteName q).append (by decide)
  | column c => exact c.neutral
  | named c name => exact (c.neutral.append (by decide)).append (.quoteName name)
  | raw s name => exact (Neutral.append h (by decide)).append (.quoteName name)

theorem Table.neutral (t : Table) : Neutral t.sql := by
  rw [sql]
  split
  · exact .quoteName _
  · exact ((Neutral.quoteName _).append (by decide)).append (.quoteName _)

theorem Join.neutral (j : Join) : Neutral j.sql := by
  have hrest (lead : String) (hlead : Neutral lead) :
      Neutral (lead ++ j.table.sql ++ " ON " ++ j.column.sql ++ " = " ++ j.equals.sql) :=
    ((((hlead.append j.table.neutral).append (by decide)).append j.column.neutral).append
      (by decide)).append j.equals.neutral
  rw [sql]
  cases j.kind with
  | inner => exact hrest " INNER JOIN " (by decide)
  | left => exact hrest " LEFT JOIN " (by decide)

theorem Select.tidy {s : Select} (h : ∀ f ∈ s.fields, f.Plain) : Tidy s.parts := by
  have hfields : Tidy s.fieldParts := by
    have hnames : Neutral (", ".intercalate (s.fields.map Field.sql)) :=
      .intercalate (by decide) (List.forall_mem_map.mpr fun f hf => (h f hf).neutral)
    have hjoins : Neutral (String.join (s.joins.map Join.sql)) :=
      .join (List.forall_mem_map.mpr fun j _ => j.neutral)
    exact ⟨(((by decide : Neutral "SELECT ").append hnames).append (by decide)).append
      s.table.neutral, hjoins, trivial⟩
  have hgroups : Tidy s.groupParts := by
    rw [groupParts]
    split
    · trivial
    · exact ⟨.append (by decide) (.intercalate (by decide)
        (List.forall_mem_map.mpr fun c _ => c.neutral)), trivial⟩
  have horder : Tidy s.orderParts := by
    rw [orderParts]
    split
    · trivial
    · refine ⟨.append (by decide) (.intercalate (by decide)
        (List.forall_mem_map.mpr fun (c, d) _ => ?_)), trivial⟩
      exact (c.neutral.append (by decide)).append (by cases d <;> decide)
  have hwindow : Tidy s.windowParts := by
    rw [windowParts]
    split
    · trivial
    · exact ⟨by decide, by decide, trivial⟩
  rw [Select.parts]
  simp only [tidy_append]
  exact ⟨⟨⟨⟨hfields, s.condition.tidy_clause⟩, hgroups⟩, horder⟩, hwindow⟩

end Conditions

namespace Statement

open CityGuide.Sql.Part

def Plain : Statement → Prop
  | select s => ∀ f ∈ s.fields, f.Plain
  | find table _ => Neutral table
  | insert table row ending =>
      Neutral table ∧ (∀ column ∈ row.map Prod.fst, Neutral column) ∧ Neutral ending.sql
  | delete naming table keys =>
      Neutral (naming.write table) ∧ ∀ column ∈ keys.map Prod.fst, Neutral (naming.write column)
  | findByEmail _ | activeSession _ _ | probe | insertAll _ _ _ | update _ _ _
  | markNotifications _ _ _ | purgeSessions => True

theorem plain_delete_quoted {table : String} {keys : List Assignment} :
    (delete .quoted table keys).Plain := ⟨.quoteName _, fun _ _ => .quoteName _⟩

def WellBound (st : Statement) : Prop :=
  ∀ k, k ∈ st.prepared.placeholders ↔ 1 ≤ k ∧ k ≤ st.prepared.values.length

theorem tidy_tuple (vs : List Value) : Tidy (tuple vs) := by
  refine tidy_enclosed (tidy_joined (by decide) fun ps hps => ?_)
  obtain ⟨v, -, rfl⟩ := List.mem_map.mp hps
  trivial

theorem tidy_setParts (changes : List Assignment) : Tidy (setParts changes) := by
  induction changes with
  | nil => trivial
  | cons change changes ih =>
    rw [setParts, List.flatMap_cons, tidy_append]
    exact ⟨⟨(Neutral.quoteName _).append (by decide), by decide, trivial⟩, ih⟩

theorem tidy_keyParts {naming : Naming} {keys : List Assignment}
    (h : ∀ column ∈ keys.map Prod.fst, Neutral (naming.write column)) :
    Tidy (keyParts naming keys) := by
  refine tidy_joined (by decide) fun ps hps => ?_
  obtain ⟨key, hkey, rfl⟩ := List.mem_map.mp hps
  exact ⟨(h _ (List.mem_map_of_mem hkey)).append (by decide), trivial⟩

theorem wellBound_of {st : Statement} (ht : ∀ s, .text s ∈ st.parts → Neutral s)
    (hw : WellNumbered 0 st.parts) : st.WellBound := by
  intro k
  have hread : st.prepared.placeholders = numbers 0 st.parts := by
    rw [Prepared.placeholders, prepared, prepare, String.toList_ofList, numbersFrom_chars ht]
  have hvalues : st.prepared.values = values st.parts := rfl
  obtain ⟨hbounds, hall⟩ := mem_numbers (k := k) hw
  rw [hread, hvalues]
  constructor
  · intro hk
    have hk := hbounds hk
    omega
  · rintro ⟨hpos, hle⟩
    exact hall (by omega)

theorem wellBound_of_tidy {st : Statement} (h : Tidy st.parts) : st.WellBound :=
  wellBound_of (fun _ hs => h.neutral hs) (h.wellNumbered 0)

theorem wellBound_markNotifications (status : String) (user : Uuid) (ids : Option (List Uuid)) :
    (markNotifications status user ids).WellBound := by
  refine wellBound_of ?_ ?_
  · simp only [parts, List.mem_cons, Part.text.injEq, reduceCtorEq, false_or, or_false,
      List.not_mem_nil, forall_eq_or_imp, forall_eq]
    exact ⟨by decide, by decide, by decide, by decide, by decide, by decide⟩
  · simp [parts, WellNumbered]

theorem wellBound_of_plain {st : Statement} (h : st.Plain) : st.WellBound := by
  cases st with
  | select s => exact wellBound_of_tidy (Select.tidy h)
  | find table id =>
    exact wellBound_of_tidy ⟨(((by decide : Neutral "SELECT * FROM ").append h).append (by decide)),
      trivial⟩
  | findByEmail email => exact wellBound_of_tidy ⟨by decide, by decide, trivial⟩
  | activeSession session user =>
    exact wellBound_of_tidy ⟨by decide, by decide, by decide, by decide, trivial⟩
  | probe => exact wellBound_of_tidy ⟨by decide, trivial⟩
  | insert table row ending =>
    obtain ⟨htable, hcolumns, hending⟩ := h
    have hlead : Neutral ("INSERT INTO " ++ table ++ " (" ++
        ", ".intercalate (row.map Prod.fst) ++ ") VALUES ") :=
      ((((by decide : Neutral "INSERT INTO ").append htable).append (by decide)).append
        (.intercalate (by decide) hcolumns)).append (by decide)
    exact wellBound_of_tidy ⟨hlead, tidy_append.mpr ⟨tidy_tuple _, hending, trivial⟩⟩
  | insertAll table columns rows =>
    have hlead : Neutral ("INSERT INTO " ++ quoteName table ++ " (" ++
        ", ".intercalate (columns.map quoteName) ++ ") VALUES ") :=
      ((((by decide : Neutral "INSERT INTO ").append (.quoteName table)).append
        (by decide)).append (.intercalate (by decide)
          (List.forall_mem_map.mpr fun c _ => .quoteName c))).append (by decide)
    refine wellBound_of_tidy ⟨hlead, tidy_joined (by decide) fun ps hps => ?_⟩
    obtain ⟨row, -, rfl⟩ := List.mem_map.mp hps
    exact tidy_tuple row
  | update table changes id =>
    have hlead : Neutral ("UPDATE " ++ quoteName table ++ " SET ") :=
      ((by decide : Neutral "UPDATE ").append (.quoteName table)).append (by decide)
    have hstamp : Neutral (quoteName "updated_at" ++ " = CURRENT_TIMESTAMP WHERE " ++
        quoteName "id" ++ " = ") :=
      (((Neutral.quoteName _).append (by decide)).append (.quoteName _)).append (by decide)
    exact wellBound_of_tidy
      ⟨hlead, tidy_append.mpr ⟨tidy_setParts changes, hstamp, by decide, trivial⟩⟩
  | markNotifications status user ids => exact wellBound_markNotifications status user ids
  | delete naming table keys =>
    exact wellBound_of_tidy ⟨((by decide : Neutral "DELETE FROM ").append h.1).append (by decide),
      tidy_keyParts h.2⟩
  | purgeSessions => exact wellBound_of_tidy ⟨by decide, trivial⟩

end Statement

end CityGuide.Sql
