import Rtl8831.Lib.Index

/-!
# Michael

The message integrity code of TKIP.  The message is padded to whole words, which are mixed one
after the other into a state of two words that starts as the key.
-/

namespace Rtl8831.Lib.Michael

def rotl (x n : UInt32) : UInt32 := (x <<< n) ||| (x >>> (32 - n))

def xswap (x : UInt32) : UInt32 := ((x &&& 0xff00ff00) >>> 8) ||| ((x &&& 0x00ff00ff) <<< 8)

def block (s : UInt32 × UInt32) : UInt32 × UInt32 :=
  let r := s.2 ^^^ rotl s.1 17
  let l := s.1 + r
  let r := r ^^^ xswap l
  let l := l + r
  let r := r ^^^ rotl l 3
  let l := l + r
  let r := r ^^^ rotl l 30
  (l + r, r)

def absorb (s : UInt32 × UInt32) (w : UInt32) : UInt32 × UInt32 := block (s.1 ^^^ w, s.2)

def word (b₀ b₁ b₂ b₃ : UInt8) : UInt32 :=
  b₀.toUInt32 ||| (b₁.toUInt32 <<< 8) ||| (b₂.toUInt32 <<< 16) ||| (b₃.toUInt32 <<< 24)

def words : List UInt8 → List UInt32
  | b₀ :: b₁ :: b₂ :: b₃ :: rest => word b₀ b₁ b₂ b₃ :: words rest
  | _ => []

/-- A byte `5a`, at least four zeros, and more of them up to a whole word. -/
def pad (msg : List UInt8) : List UInt8 := msg ++ 0x5a :: List.replicate (7 - msg.length % 4) 0

lemma length_pad_mod (msg : List UInt8) : (pad msg).length % 4 = 0 := by
  unfold pad
  rw [List.length_append, List.length_cons, List.length_replicate]
  omega

def mic (key : UInt32 × UInt32) (msg : List UInt8) : UInt32 × UInt32 :=
  (words (pad msg)).foldl absorb key

def Collide (key : UInt32 × UInt32) (msg msg' : List UInt8) : Prop :=
  msg ≠ msg' ∧ mic key msg = mic key msg'

lemma mic_eq_iff {key : UInt32 × UInt32} {msg msg' : List UInt8} :
    mic key msg = mic key msg' ↔ msg = msg' ∨ Collide key msg msg' := by
  unfold Collide
  constructor
  · intro h
    by_cases heq : msg = msg'
    · exact Or.inl heq
    · exact Or.inr ⟨heq, h⟩
  · rintro (rfl | ⟨-, h⟩)
    · rfl
    · exact h

/-- The code of the empty message under the zero key. -/
example : mic (0, 0) [] = (0x1c5c9282, 0xb830d1a1) := by decide

end Rtl8831.Lib.Michael
