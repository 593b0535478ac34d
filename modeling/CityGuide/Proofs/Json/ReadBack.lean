import CityGuide.Json.Decode
import CityGuide.Proofs.Json.Lexing

namespace CityGuide.Json

mutual

def Exact : Json → Prop
  | .int n => isWord n
  | .float _ => False
  | .list items => ExactItems items
  | .record members => ExactMembers members
  | .null | .bool _ | .text _ => True

def ExactItems : List Json → Prop
  | [] => True
  | j :: js => Exact j ∧ ExactItems js

def ExactMembers : List (String × Json) → Prop
  | [] => True
  | (_, j) :: ms => Exact j ∧ ExactMembers ms

end

mutual

def written : Json → List Token
  | .null => [.null]
  | .bool b => [.bool b]
  | .int n => [.number (some (.int n))]
  | .float x => [.number (some (.float x))]
  | .text s => [.text (some s)]
  | .list [] => [.openList, .closeList]
  | .list (j :: js) => .openList :: (written j ++ writtenItems js)
  | .record [] => [.openRecord, .closeRecord]
  | .record ((key, j) :: ms) =>
      .openRecord :: .text (some key) :: .colon :: (written j ++ writtenMembers ms)

def writtenItems : List Json → List Token
  | [] => [.closeList]
  | j :: js => .comma :: (written j ++ writtenItems js)

def writtenMembers : List (String × Json) → List Token
  | [] => [.closeRecord]
  | (key, j) :: ms => .comma :: .text (some key) :: .colon :: (written j ++ writtenMembers ms)

end

theorem stops_itemChars (js : List Json) (rest : List Char) : Stops (itemChars js ++ rest) := by
  cases js with
  | nil => exact stops_cons (.inr (.inl rfl))
  | cons j js => exact stops_cons (.inl rfl)

theorem stops_moreChars (ms : List (String × Json)) (rest : List Char) :
    Stops (moreChars ms ++ rest) := by
  cases ms with
  | nil => exact stops_cons (.inr (.inr rfl))
  | cons m ms => exact stops_cons (.inl rfl)

theorem tokens_mark {c : Char} {t : Token} (hgap : isGap c = false)
    (hat : ∀ cs, tokenAt c cs = (t, cs)) (cs : List Char) : tokens (c :: cs) = t :: tokens cs := by
  rw [tokens_cons hgap, hat]

theorem tokens_keyword {c : Char} {word : List Char} {t : Token} (hgap : isGap c = false)
    (hat : ∀ cs, tokenAt c cs = keyword word t cs) (rest : List Char) :
    tokens (c :: (word ++ rest)) = t :: tokens rest := by
  rw [tokens_cons hgap, hat, keyword, if_pos (by simp)]
  simp

mutual

theorem tokens_chars : ∀ {j : Json}, Exact j → ∀ {rest : List Char}, Stops rest →
    tokens (chars j ++ rest) = written j ++ tokens rest
  | .null, _, rest, _ => tokens_keyword (by decide) (fun _ => rfl) rest
  | .bool true, _, rest, _ => tokens_keyword (by decide) (fun _ => rfl) rest
  | .bool false, _, rest, _ => tokens_keyword (by decide) (fun _ => rfl) rest
  | .int n, hj, rest, hr => tokens_int hj hr
  | .float x, hj, rest, hr => hj.elim
  | .text s, _, rest, _ => tokens_quoted s rest
  | .list [], _, rest, _ => by
    simp only [chars, written, List.cons_append, List.nil_append]
    rw [tokens_mark (by decide) fun _ => rfl, tokens_mark (by decide) fun _ => rfl]
  | .list (j :: js), hj, rest, hr => by
    simp only [chars, written, List.cons_append, List.append_assoc]
    rw [tokens_mark (by decide) fun _ => rfl, tokens_chars hj.1 (stops_itemChars js rest),
      tokens_itemChars hj.2 hr]
  | .record [], _, rest, _ => by
    simp only [chars, written, List.cons_append, List.nil_append]
    rw [tokens_mark (by decide) fun _ => rfl, tokens_mark (by decide) fun _ => rfl]
  | .record ((key, j) :: ms), hj, rest, hr => by
    simp only [chars, memberChars, written, List.cons_append, List.append_assoc]
    rw [tokens_mark (by decide) fun _ => rfl, tokens_quoted, tokens_mark (by decide) fun _ => rfl,
      tokens_chars hj.1 (stops_moreChars ms rest), tokens_moreChars hj.2 hr]

theorem tokens_itemChars : ∀ {js : List Json}, ExactItems js → ∀ {rest : List Char}, Stops rest →
    tokens (itemChars js ++ rest) = writtenItems js ++ tokens rest
  | [], _, rest, _ => tokens_mark (by decide) (fun _ => rfl) rest
  | j :: js, hj, rest, hr => by
    simp only [itemChars, writtenItems, List.cons_append, List.append_assoc]
    rw [tokens_mark (by decide) fun _ => rfl, tokens_chars hj.1 (stops_itemChars js rest),
      tokens_itemChars hj.2 hr]

theorem tokens_moreChars : ∀ {ms : List (String × Json)}, ExactMembers ms →
    ∀ {rest : List Char}, Stops rest →
      tokens (moreChars ms ++ rest) = writtenMembers ms ++ tokens rest
  | [], _, rest, _ => tokens_mark (by decide) (fun _ => rfl) rest
  | (key, j) :: ms, hj, rest, hr => by
    simp only [moreChars, memberChars, writtenMembers, List.cons_append, List.append_assoc]
    rw [tokens_mark (by decide) fun _ => rfl, tokens_quoted, tokens_mark (by decide) fun _ => rfl,
      tokens_chars hj.1 (stops_moreChars ms rest), tokens_moreChars hj.2 hr]

end

theorem written_opens (j : Json) : ∃ t ts, written j = t :: ts ∧ t ≠ .closeList := by
  rcases j with _ | b | n | x | s | (_ | ⟨j, js⟩) | (_ | ⟨⟨key, j⟩, ms⟩) <;>
    exact ⟨_, _, rfl, Token.noConfusion⟩

namespace Document

mutual

theorem read_written : ∀ {j : Json} {n : Nat}, (written j).length ≤ n → ∀ ts : List Token,
    read n (written j ++ ts) = (ofValue j, ts)
  | .null, n + 1, _, ts => rfl
  | .bool b, n + 1, _, ts => rfl
  | .int m, n + 1, _, ts => rfl
  | .float x, n + 1, _, ts => rfl
  | .text s, n + 1, _, ts => rfl
  | .list [], n + 1, _, ts => rfl
  | .list (j :: js), n + 1, hn, ts => by
    have hitems : readItems n (written j ++ (writtenItems js ++ ts)) =
        (ofValue j :: ofValues js, ts) :=
      readItems_written (by simpa [written] using hn) ts
    obtain ⟨t, us, hj, ht⟩ := written_opens j
    simp only [written, List.cons_append, List.append_assoc]
    rw [hj, List.cons_append] at hitems ⊢
    rw [read, hitems]
    · rfl
    · intro _ heq
      exact ht (List.cons.inj heq).1
  | .record [], n + 1, _, ts => rfl
  | .record ((key, j) :: ms), n + 1, hn, ts => by
    have hmembers : readMembers n (.text (some key) :: .colon ::
        (written j ++ (writtenMembers ms ++ ts))) =
        ((some key, ofValue j) :: ofMembers ms, ts) :=
      readMembers_written (by simp [written] at hn; omega) ts
    simp only [written, List.cons_append, List.append_assoc, read, hmembers]
    rfl

theorem readItems_written : ∀ {j : Json} {js : List Json} {n : Nat},
    (written j).length + (writtenItems js).length ≤ n → ∀ ts : List Token,
      readItems n (written j ++ (writtenItems js ++ ts)) = (ofValue j :: ofValues js, ts)
  | j, [], n + 1, hn, ts => by
    have hj : read n (written j ++ .closeList :: ts) = (ofValue j, .closeList :: ts) :=
      read_written (by simp [writtenItems] at hn; omega) _
    simp only [writtenItems, List.cons_append, List.nil_append, readItems, hj, ofValues]
  | j, i :: js, n + 1, hn, ts => by
    simp only [writtenItems, List.length_cons, List.length_append] at hn
    have hj : read n (written j ++ .comma :: (written i ++ (writtenItems js ++ ts))) =
        (ofValue j, .comma :: (written i ++ (writtenItems js ++ ts))) :=
      read_written (by omega) _
    have hjs : readItems n (written i ++ (writtenItems js ++ ts)) =
        (ofValue i :: ofValues js, ts) :=
      readItems_written (by omega) ts
    simp only [writtenItems, List.cons_append, List.append_assoc, readItems, hj, hjs, ofValues]

theorem readMembers_written : ∀ {key : String} {j : Json} {ms : List (String × Json)} {n : Nat},
    (written j).length + (writtenMembers ms).length ≤ n → ∀ ts : List Token,
      readMembers n (.text (some key) :: .colon :: (written j ++ (writtenMembers ms ++ ts))) =
        ((some key, ofValue j) :: ofMembers ms, ts)
  | key, j, [], n + 1, hn, ts => by
    have hj : read n (written j ++ .closeRecord :: ts) = (ofValue j, .closeRecord :: ts) :=
      read_written (by simp [writtenMembers] at hn; omega) _
    simp only [writtenMembers, List.cons_append, List.nil_append, readMembers, hj, ofMembers]
  | key, j, (next, i) :: ms, n + 1, hn, ts => by
    simp only [writtenMembers, List.length_cons, List.length_append] at hn
    have hj : read n (written j ++ .comma :: .text (some next) :: .colon ::
        (written i ++ (writtenMembers ms ++ ts))) =
        (ofValue j, .comma :: .text (some next) :: .colon ::
          (written i ++ (writtenMembers ms ++ ts))) :=
      read_written (by omega) _
    have hms : readMembers n (.text (some next) :: .colon ::
        (written i ++ (writtenMembers ms ++ ts))) = ((some next, ofValue i) :: ofMembers ms, ts) :=
      readMembers_written (by omega) ts
    simp only [writtenMembers, List.cons_append, List.append_assoc, readMembers, hj, hms,
      ofMembers]

end

theorem ofChars_chars {j : Json} (hj : Exact j) : ofChars (chars j) = (ofValue j, true) := by
  have hnil : tokens [] = [] := by
    rw [tokens]
    rfl
  have htokens : tokens (chars j) = written j := by
    have happend := tokens_chars hj stops_nil
    rwa [List.append_nil, hnil, List.append_nil] at happend
  have hread : ofTokens (written j) = (ofValue j, []) := by
    have happend := read_written (j := j) (n := 2 * (written j).length + 1) (by omega) []
    rwa [List.append_nil] at happend
  rw [ofChars, htokens, hread]
  rfl

end Document

theorem decodeChars_chars {α : Type} (dec : Decoder α) {j : Json} (hj : Exact j) :
    decodeChars dec (chars j) = dec (.ofValue j) := by
  rw [decodeChars, Document.ofChars_chars hj]
  cases h : dec (.ofValue j) <;> simp [h, Bind.bind, Except.bind]

end CityGuide.Json
