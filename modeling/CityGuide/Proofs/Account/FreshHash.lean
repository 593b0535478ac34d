import CityGuide.Account.Password
import CityGuide.Proofs.Account.SignedToken
import CityGuide.Proofs.Text.Items

namespace CityGuide

namespace Crypto

namespace Base64

theorem firstByte_sextets (x : UInt8) {k : Nat} (hk : k < 16) :
    firstByte (sextet (x.toNat / 4)) (sextet (x.toNat * 16 + k)) = x := by
  have hx := x.toNat_lt
  refine UInt8.toNat_inj.mp ?_
  simp only [firstByte, sextet, Fin.val_ofNat, UInt8.toNat_ofNat']
  omega

theorem secondByte_sextets (m : Nat) (y : UInt8) {k : Nat} (hk : k < 4) :
    secondByte (sextet (m * 16 + y.toNat / 16)) (sextet (y.toNat * 4 + k)) = y := by
  have hy := y.toNat_lt
  refine UInt8.toNat_inj.mp ?_
  simp only [secondByte, sextet, Fin.val_ofNat, UInt8.toNat_ofNat']
  omega

theorem thirdByte_sextets (m : Nat) (z : UInt8) :
    thirdByte (sextet (m * 4 + z.toNat / 64)) (sextet z.toNat) = z := by
  have hz := z.toNat_lt
  refine UInt8.toNat_inj.mp ?_
  simp only [thirdByte, sextet, Fin.val_ofNat, UInt8.toNat_ofNat']
  omega

theorem ofDigits_digits (bs : Bytes) : ofDigits (digits bs) = some bs := by
  fun_induction digits bs with
  | case1 => rfl
  | case2 x =>
    have hzero : (sextet (x.toNat * 16)).val % 16 = 0 := by
      simp only [sextet, Fin.val_ofNat]
      omega
    have hx := firstByte_sextets x (Nat.zero_lt_succ 15)
    rw [Nat.add_zero] at hx
    simp only [ofDigits, hzero, if_true, hx]
  | case3 x y =>
    have hzero : (sextet (y.toNat * 4)).val % 4 = 0 := by
      simp only [sextet, Fin.val_ofNat]
      omega
    have hx := firstByte_sextets x (k := y.toNat / 16) (by have := y.toNat_lt; omega)
    have hy := secondByte_sextets x.toNat y (Nat.zero_lt_succ 3)
    rw [Nat.add_zero] at hy
    simp only [ofDigits, hzero, if_true, hx, hy]
  | case4 x y z rest ih =>
    have hx := firstByte_sextets x (k := y.toNat / 16) (by have := y.toNat_lt; omega)
    have hy := secondByte_sextets x.toNat y (k := z.toNat / 64) (by have := z.toNat_lt; omega)
    simp only [ofDigits, ih, hx, hy, thirdByte_sextets, Option.map_some]

theorem decode_encode (a : Alphabet) (bs : Bytes) : decode a (encode a bs) = some bs := by
  have hdigits : ∀ ds : List (Fin 64), (ds.map a.char).mapM a.digit? = some ds := by
    intro ds
    induction ds with
    | nil => rfl
    | cons d ds ih => simp [Alphabet.digit?_char, ih]
  rw [decode, encode, hdigits, Option.bind_some, ofDigits_digits]

theorem digits_length (bs : Bytes) : (digits bs).length = (bs.length * 4 + 2) / 3 := by
  fun_induction digits bs with
  | case1 => rfl
  | case2 | case3 => simp
  | case4 x y z rest ih =>
    simp only [List.length_cons, ih]
    omega

end Base64

namespace Blake2b

theorem mix_size (v : Array UInt64) (line : Nat × Nat × Nat × Nat) (x y : UInt64) :
    (mix v line x y).size = v.size := by
  simp [mix]

theorem foldl_size {α : Type} {f : Array UInt64 → α → Array UInt64}
    (hf : ∀ v x, (f v x).size = v.size) (v : Array UInt64) (xs : List α) :
    (xs.foldl f v).size = v.size := by
  induction xs generalizing v with
  | nil => rfl
  | cons x xs ih => rw [List.foldl_cons, ih, hf]

theorem round_size (message v : Array UInt64) (order : List Nat) :
    (round message v order).size = v.size := foldl_size (fun _ _ => mix_size ..) ..

theorem compress_length {h : List UInt64} (hh : h.length = 8) (block : Bytes) (count : Nat)
    (last : Bool) : (compress h block count last).length = 8 := by
  simp [compress, foldl_size (fun v order => round_size _ v order), hh, start]

theorem absorb_length {h : List UInt64} (hh : h.length = 8) (count : Nat) (blocks : List Bytes) :
    (absorb h count blocks).length = 8 := by
  fun_induction absorb h count blocks with
  | case1 | case2 => exact compress_length hh ..
  | case3 h count block more _ ih => exact ih (compress_length hh ..)

theorem digest_length {size : Nat} (hsize : size ≤ 64) (bs : Bytes) :
    (digest size bs).length = size := by
  have habsorbed := absorb_length (h := List.zipWith (· ^^^ ·) start
    ((0x01010000 ^^^ UInt64.ofNat size) :: List.replicate 7 0)) rfl 0 (chunks 127 bs)
  simp only [digest, List.length_take, List.length_flatMap, littleEndian_length,
    List.map_const', List.sum_replicate_nat, habsorbed]
  omega

theorem chain_length (size : Nat) (bs : Bytes) : (chain size bs).length = size := by
  fun_induction chain size bs with
  | case1 size bs h => exact digest_length h bs
  | case2 size bs h next ih =>
    have hnext : next.length = 64 := digest_length (by decide) bs
    simp [ih, hnext]
    omega

end Blake2b

theorem Argon2.hash_length (p : Params) (size : Nat) (password salt : Bytes) :
    (hash p size password salt).length = size := Blake2b.chain_length ..

end Crypto

namespace Password

open Crypto Text

theorem dollar_notMem_encode (bs : Bytes) : '$' ∉ Base64.encode .standard bs := by
  intro h
  exact Base64.forall_mem_encode (P := fun c => c ≠ '$') (by decide) bs _ h rfl

theorem isValue_encode {bs : Bytes} (h : bs.length ≤ 47) :
    isValue (Base64.encode .standard bs) = true := by
  have hchars : ∀ c ∈ Base64.encode .standard bs, isValueChar c = true :=
    Base64.forall_mem_encode (by decide) bs
  have hlength : (Base64.encode .standard bs).length ≤ 64 := by
    rw [Base64.encode, List.length_map, Base64.digits_length]
    omega
  simp only [isValue, hlength, decide_true, Bool.true_and, List.all_eq_true]
  exact hchars

theorem bytes?_encode {fewest most : Nat} {bs : Bytes} (hf : fewest ≤ bs.length)
    (hm : bs.length ≤ most) : bytes? fewest most (Base64.encode .standard bs) = some bs := by
  rw [bytes?, Base64.decode_encode, Option.filter_some, if_pos]
  exact decide_eq_true ⟨hf, hm⟩

theorem salt?_encode (salt : Salt) :
    salt? (Base64.encode .standard salt.toList) = some salt.toList := by
  have hlength : salt.toList.length = 16 := salt.length_toList
  have hfour : 4 ≤ (Base64.encode .standard salt.toList).length := by
    rw [Base64.encode, List.length_map, Base64.digits_length]
    omega
  rw [salt?, if_pos ⟨hfour, isValue_encode (by omega)⟩, bytes?_encode (by omega) (by omega)]

def tag (salt : Salt) (password : String) : Bytes :=
  Argon2.hash (defaults .id .v19) 32 (utf8 password) salt.toList

theorem tag_length (salt : Salt) (password : String) : (tag salt password).length = 32 :=
  Argon2.hash_length ..

theorem hash_eq (salt : Salt) (password : String) :
    hash salt password = String.ofList ("$argon2id$v=19$m=19456,t=2,p=1$".toList ++
      Base64.encode .standard salt.toList ++ '$' ::
        Base64.encode .standard (tag salt password)) := rfl

theorem splitOn_hash (salt : Salt) (password : String) :
    splitOn '$' (hash salt password).toList =
      [[], "argon2id".toList, "v=19".toList, "m=19456,t=2,p=1".toList,
        Base64.encode .standard salt.toList, Base64.encode .standard (tag salt password)] := by
  have hsplit : (hash salt password).toList = [] ++ '$' :: ("argon2id".toList ++ '$' ::
      ("v=19".toList ++ '$' :: ("m=19456,t=2,p=1".toList ++ '$' ::
        (Base64.encode .standard salt.toList ++ '$' ::
          Base64.encode .standard (tag salt password))))) := by
    rw [hash_eq, String.toList_ofList]
    generalize Base64.encode .standard salt.toList = a
    generalize Base64.encode .standard (tag salt password) = b
    simp
  have hnames : '$' ∉ ([] : List Char) ∧ '$' ∉ "argon2id".toList ∧ '$' ∉ "v=19".toList ∧
      '$' ∉ "m=19456,t=2,p=1".toList := by decide
  obtain ⟨hlead, hname, hversion, hparams⟩ := hnames
  rw [hsplit, splitOn_append hlead, splitOn_append hname, splitOn_append hversion,
    splitOn_append hparams, splitOn_append (dollar_notMem_encode _),
    splitOn_of_notMem (dollar_notMem_encode _)]

theorem ofText?_hash (salt : Salt) (password : String) :
    Hash.ofText? (hash salt password) =
      some ⟨defaults .id .v19, salt.toList, tag salt password⟩ := by
  have htag : bytes? 10 64 (Base64.encode .standard (tag salt password)) =
      some (tag salt password) := by
    rw [bytes?_encode] <;> simp [tag_length]
  have hname : variant? "argon2id".toList = some .id := by decide
  have hversion (fields : List (List Char)) :
      takeVersion ("v=19".toList :: fields) = some (some 19, fields) := by
    have hcomma : "19".toList.contains ',' = false := by decide
    have hvalue : isValue "19".toList = true := by decide
    have hnumber : number? "19".toList = some 19 := by decide
    change takeVersion (('v' :: '=' :: "19".toList) :: fields) = _
    simp only [takeVersion, hcomma, hvalue, hnumber, if_true, Option.map_some]
    rfl
  have hpairs (fields : List (List Char)) :
      takePairs ("m=19456,t=2,p=1".toList :: fields) =
        some ([(['m'], "19456".toList), (['t'], ['2']), (['p'], ['1'])], fields) := by
    have hequals : "m=19456,t=2,p=1".toList.contains '=' = true := by decide
    have hread : pairs? "m=19456,t=2,p=1".toList =
        some [(['m'], "19456".toList), (['t'], ['2']), (['p'], ['1'])] := by decide
    simp only [takePairs, hequals, hread, if_true, Option.map_some]
  have hparams : [(['m'], "19456".toList), (['t'], ['2']), (['p'], ['1'])].foldlM setParam
      (defaults .id .v19) = some (defaults .id .v19) := by decide
  simp only [Hash.ofText?, splitOn_hash, hname, hversion, hpairs, salt?_encode, htag, hparams,
    Option.bind_eq_bind, Option.bind_some, version?]
  rfl

theorem verify_hash (salt : Salt) (password : String) :
    verify (hash salt password) password = true := by
  simp only [verify, ofText?_hash, Hash.accepts, tag_length, decide_eq_true_eq]
  rfl

theorem hash_ne_of_salt {salt salt' : Salt} {password password' : String} (h : salt ≠ salt') :
    hash salt password ≠ hash salt' password' := by
  intro heq
  have hread := (ofText?_hash salt password).symm.trans (heq ▸ ofText?_hash salt' password')
  have hsalts := congrArg Hash.salt (Option.some.inj hread)
  exact h (Vector.toList_inj.mp hsalts)

end Password

end CityGuide
