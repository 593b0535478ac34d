import Mathlib.Logic.Basic

namespace CityGuide

inductive Outcomes {ε ε' α α' : Type} (E : ε → ε' → Prop) (R : α → α' → Prop) :
    Except ε α → Except ε' α' → Prop
  | failed {e : ε} {e' : ε'} (h : E e e') : Outcomes E R (.error e) (.error e')
  | held {a : α} {a' : α'} (h : R a a') : Outcomes E R (.ok a) (.ok a')

namespace Outcomes

variable {ε ε' α α' β β' : Type} {E : ε → ε' → Prop} {R : α → α' → Prop} {S : β → β' → Prop}
  {r : Except ε α} {r' : Except ε' α'}

theorem refl (r : Except ε α) : Outcomes Eq Eq r r := by
  cases r with
  | error e => exact .failed rfl
  | ok a => exact .held rfl

theorem eq {r r' : Except ε α} (h : Outcomes Eq Eq r r') : r = r' := by
  cases h with
  | failed h => rw [h]
  | held h => rw [h]

theorem bind {f : α → Except ε β} {f' : α' → Except ε' β'} (h : Outcomes E R r r')
    (hf : ∀ a a', R a a' → Outcomes E S (f a) (f' a')) : Outcomes E S (r.bind f) (r'.bind f') := by
  cases h with
  | failed h => exact .failed h
  | held h => exact hf _ _ h

theorem map {f : α → β} {f' : α' → β'} (h : Outcomes E R r r')
    (hf : ∀ a a', R a a' → S (f a) (f' a')) : Outcomes E S (r.map f) (r'.map f') := by
  cases h with
  | failed h => exact .failed h
  | held h => exact .held (hf _ _ h)

theorem mono {S : α → α' → Prop} (h : Outcomes E R r r') (hs : ∀ a a', R a a' → S a a') :
    Outcomes E S r r' := by
  cases h with
  | failed h => exact .failed h
  | held h => exact .held (hs _ _ h)

end Outcomes

section Options

variable {α α' β β' : Type} {R : α → α' → Prop} {S : β → β' → Prop}

theorem rel_bind {o : Option α} {o' : Option α'} {f : α → Option β} {f' : α' → Option β'}
    (h : Option.Rel R o o') (hf : ∀ a a', R a a' → Option.Rel S (f a) (f' a')) :
    Option.Rel S (o >>= f) (o' >>= f') := by
  cases h with
  | none => exact .none
  | some h => exact hf _ _ h

theorem rel_bind_same {o : Option α} {f : α → Option β} {f' : α → Option β'}
    (hf : ∀ a, Option.Rel S (f a) (f' a)) : Option.Rel S (o >>= f) (o >>= f') := by
  cases o with
  | none => exact .none
  | some a => exact hf a

end Options

end CityGuide
