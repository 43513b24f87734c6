import Mathlib

/-!
Texts as lists of code points, surrogates included, and the encodings of bytes that a
JSON document may come in. A surrogate that is encoded by itself passes.
-/
namespace Library

/-- A text of the source: its code points. -/
abbrev Text := List Nat

/-- The code points of a literal. -/
def ascii (s : String) : Text := s.toList.map Char.toNat

namespace Unicode

def isHigh (c : Nat) : Bool := 0xD800 ≤ c ∧ c ≤ 0xDBFF
def isLow (c : Nat) : Bool := 0xDC00 ≤ c ∧ c ≤ 0xDFFF
def isSurrogate (c : Nat) : Bool := 0xD800 ≤ c ∧ c ≤ 0xDFFF

def join (high low : Nat) : Nat := 0x10000 + (high - 0xD800) * 0x400 + (low - 0xDC00)

/-- UTF-8 of a code point, which must be no surrogate. -/
def utf8Bytes (c : Nat) : Option (List Nat) :=
  if c < 0x80 then some [c]
  else if c < 0x800 then some [0xC0 + c / 0x40, 0x80 + c % 0x40]
  else if isSurrogate c then none
  else if c < 0x10000 then some [0xE0 + c / 0x1000, 0x80 + c / 0x40 % 0x40, 0x80 + c % 0x40]
  else some [0xF0 + c / 0x40000, 0x80 + c / 0x1000 % 0x40, 0x80 + c / 0x40 % 0x40, 0x80 + c % 0x40]

def utf8Encode : Text → Option (List Nat)
  | [] => some []
  | c :: cs => do
      let bytes ← utf8Bytes c
      let rest ← utf8Encode cs
      some (bytes ++ rest)

def isTail (b : Nat) : Bool := 0x80 ≤ b ∧ b ≤ 0xBF

def utf8Decode : List Nat → Option Text
  | [] => some []
  | a :: rest =>
      if a < 0x80 then (utf8Decode rest).map (a :: ·)
      else
        match rest with
        | [] => none
        | b :: rest =>
            if !isTail b ∨ a < 0xC2 then none
            else if a < 0xE0 then (utf8Decode rest).map (((a - 0xC0) * 0x40 + (b - 0x80)) :: ·)
            else
              match rest with
              | [] => none
              | c :: rest =>
                  if !isTail c ∨ (a = 0xE0 ∧ b < 0xA0) then none
                  else if a < 0xF0 then
                    (utf8Decode rest).map
                      (((a - 0xE0) * 0x1000 + (b - 0x80) * 0x40 + (c - 0x80)) :: ·)
                  else
                    match rest with
                    | [] => none
                    | d :: rest =>
                        if !isTail d ∨ (a = 0xF0 ∧ b < 0x90) ∨ (a = 0xF4 ∧ 0x90 ≤ b) ∨ 0xF5 ≤ a then
                          none
                        else
                          (utf8Decode rest).map (((a - 0xF0) * 0x40000 + (b - 0x80) * 0x1000 +
                            (c - 0x80) * 0x40 + (d - 0x80)) :: ·)

inductive Endian where
  | little | big
deriving DecidableEq

def units : Endian → List Nat → Option (List Nat)
  | _, [] => some []
  | _, [_] => none
  | .little, a :: b :: rest => (units .little rest).map ((b * 0x100 + a) :: ·)
  | .big, a :: b :: rest => (units .big rest).map ((a * 0x100 + b) :: ·)

/-- Surrogates in pairs are one code point. -/
def paired : List Nat → Text
  | [] => []
  | [u] => [u]
  | u :: v :: rest =>
      if isHigh u ∧ isLow v then join u v :: paired rest else u :: paired (v :: rest)

def utf16Decode (e : Endian) (bytes : List Nat) : Option Text := (units e bytes).map paired

def word : Endian → Nat → Nat → Nat → Nat → Nat
  | .little, a, b, c, d => ((d * 0x100 + c) * 0x100 + b) * 0x100 + a
  | .big, a, b, c, d => ((a * 0x100 + b) * 0x100 + c) * 0x100 + d

def utf32Decode (e : Endian) : List Nat → Option Text
  | [] => some []
  | a :: b :: c :: d :: rest =>
      if 0x10FFFF < word e a b c d then none
      else (utf32Decode e rest).map (word e a b c d :: ·)
  | _ => none

inductive Encoding where
  | utf8 | utf8Sig
  | utf16 (e : Endian) (mark : Bool)
  | utf32 (e : Endian) (mark : Bool)

/-- `detect_encoding`: by a mark at the start, or by which of the first bytes are zero. -/
def detectEncoding (b : List Nat) : Encoding :=
  if [0x00, 0x00, 0xFE, 0xFF].isPrefixOf b then .utf32 .big true
  else if [0xFF, 0xFE, 0x00, 0x00].isPrefixOf b then .utf32 .little true
  else if [0xFE, 0xFF].isPrefixOf b then .utf16 .big true
  else if [0xFF, 0xFE].isPrefixOf b then .utf16 .little true
  else if [0xEF, 0xBB, 0xBF].isPrefixOf b then .utf8Sig
  else
    match b with
    | b0 :: b1 :: b2 :: b3 :: _ =>
        if b0 = 0 then if b1 ≠ 0 then .utf16 .big false else .utf32 .big false
        else if b1 = 0 then
          if b2 ≠ 0 ∨ b3 ≠ 0 then .utf16 .little false else .utf32 .little false
        else .utf8
    | [b0, b1] =>
        if b0 = 0 then .utf16 .big false else if b1 = 0 then .utf16 .little false else .utf8
    | _ => .utf8

/-- `bytes.decode(detect_encoding(bytes), "surrogatepass")`. -/
def decode (bytes : List Nat) : Option Text :=
  match detectEncoding bytes with
  | .utf8 => utf8Decode bytes
  | .utf8Sig => utf8Decode (bytes.drop 3)
  | .utf16 e mark => utf16Decode e (if mark then bytes.drop 2 else bytes)
  | .utf32 e mark => utf32Decode e (if mark then bytes.drop 4 else bytes)

theorem utf8Encode_ascii {t : Text} (small : ∀ c ∈ t, c < 0x80) : utf8Encode t = some t := by
  induction t with
  | nil => rfl
  | cons c t ih =>
      rw [List.forall_mem_cons] at small
      rw [utf8Encode, utf8Bytes, if_pos small.1, ih small.2]
      rfl

theorem utf8Decode_ascii {t : Text} (small : ∀ c ∈ t, c < 0x80) : utf8Decode t = some t := by
  induction t with
  | nil => rfl
  | cons c t ih =>
      rw [List.forall_mem_cons] at small
      unfold utf8Decode
      rw [if_pos small.1, ih small.2]
      rfl

/-- A document of ASCII whose first letters are no zeros comes as it is. -/
theorem decode_ascii {a b : Nat} {rest : Text} (small : ∀ x ∈ a :: b :: rest, x < 0x80)
    (ha : a ≠ 0) (hb : b ≠ 0) : decode (a :: b :: rest) = some (a :: b :: rest) := by
  have first : a < 0x80 := small a (by simp)
  have marked : ∀ (m : Nat) (ms : List Nat), 0x80 ≤ m ∨ m = 0 →
      (m :: ms).isPrefixOf (a :: b :: rest) = false := by
    intro m ms large
    simp only [List.isPrefixOf, Bool.and_eq_false_iff, beq_eq_false_iff_ne]
    left
    omega
  have plain : detectEncoding (a :: b :: rest) = .utf8 := by
    simp only [detectEncoding, marked _ _ (.inr rfl), marked 0xFF _ (.inl (by decide)),
      marked 0xFE _ (.inl (by decide)), marked 0xEF _ (.inl (by decide)), Bool.false_eq_true,
      if_false]
    cases rest with
    | nil => simp [ha, hb]
    | cons c rest =>
        cases rest with
        | nil => rfl
        | cons d rest => simp [ha, hb]
  rw [decode, plain]
  exact utf8Decode_ascii small

section Length
variable {bytes : List Nat} {t : Text} {e : Endian}

theorem length_of_map {o : Option Text} {c n : Nat} (h : o.map (c :: ·) = some t)
    (rest : ∀ t', o = some t' → t'.length ≤ n) : t.length ≤ n + 1 := by
  obtain ⟨t', found, rfl⟩ := Option.map_eq_some_iff.mp h
  exact Nat.succ_le_succ (rest t' found)

theorem length_utf8Decode (h : utf8Decode bytes = some t) : t.length ≤ bytes.length := by
  induction bytes using utf8Decode.induct generalizing t with
  | case1 =>
      rw [utf8Decode] at h
      cases h
      exact le_refl _
  | case2 a rest small ih =>
      unfold utf8Decode at h
      rw [if_pos small] at h
      exact length_of_map h fun _ => ih
  | case3 a large =>
      unfold utf8Decode at h
      rw [if_neg large] at h
      cases h
  | case4 a large b rest bad =>
      unfold utf8Decode at h
      simp only [if_neg large, if_pos bad] at h
      cases h
  | case5 a large b rest good two ih =>
      unfold utf8Decode at h
      simp only [if_neg large, if_neg good, if_pos two] at h
      exact (length_of_map h fun _ => ih).trans (Nat.le_succ _)
  | case6 a large b good two =>
      unfold utf8Decode at h
      simp only [if_neg large, if_neg good, if_neg two] at h
      cases h
  | case7 a large b good two c rest bad =>
      unfold utf8Decode at h
      simp only [if_neg large, if_neg good, if_neg two, if_pos bad] at h
      cases h
  | case8 a large b good two c rest good' three ih =>
      unfold utf8Decode at h
      simp only [if_neg large, if_neg good, if_neg two, if_neg good', if_pos three] at h
      exact (length_of_map h fun _ => ih).trans (Nat.le_add_right _ 2)
  | case9 a large b good two c good' three =>
      unfold utf8Decode at h
      simp only [if_neg large, if_neg good, if_neg two, if_neg good', if_neg three] at h
      cases h
  | case10 a large b good two c good' three d rest bad =>
      unfold utf8Decode at h
      simp only [if_neg large, if_neg good, if_neg two, if_neg good', if_neg three,
        if_pos bad] at h
      cases h
  | case11 a large b good two c good' three d rest good'' ih =>
      unfold utf8Decode at h
      simp only [if_neg large, if_neg good, if_neg two, if_neg good', if_neg three,
        if_neg good''] at h
      exact (length_of_map h fun _ => ih).trans (Nat.le_add_right _ 3)

theorem length_units (h : units e bytes = some t) : t.length ≤ bytes.length := by
  induction e, bytes using units.induct generalizing t with
  | case1 e =>
      cases e <;> · cases h; exact le_refl _
  | case2 e b => cases e <;> cases h
  | case3 a b rest ih => exact (length_of_map h fun _ => ih).trans (Nat.le_succ _)
  | case4 a b rest ih => exact (length_of_map h fun _ => ih).trans (Nat.le_succ _)

theorem length_paired (us : List Nat) : (paired us).length ≤ us.length := by
  induction us using paired.induct with
  | case1 => exact le_refl _
  | case2 u => exact le_refl _
  | case3 u v rest pair ih =>
      rw [paired, if_pos pair]
      exact (Nat.succ_le_succ ih).trans (Nat.le_succ _)
  | case4 u v rest apart ih =>
      rw [paired, if_neg apart]
      exact Nat.succ_le_succ ih

theorem length_utf32Decode (h : utf32Decode e bytes = some t) : t.length ≤ bytes.length := by
  induction bytes using utf32Decode.induct e generalizing t with
  | case1 => cases h; exact le_refl _
  | case2 a b c d rest bad =>
      unfold utf32Decode at h
      rw [if_pos bad] at h
      cases h
  | case3 a b c d rest good ih =>
      unfold utf32Decode at h
      rw [if_neg good] at h
      exact (length_of_map h fun _ => ih).trans (Nat.le_add_right _ 3)
  | case4 bytes nil four =>
      unfold utf32Decode at h
      split at h
      · exact absurd rfl nil
      · exact absurd rfl (four _ _ _ _ _)
      · cases h

/-- No text is longer than its bytes. -/
theorem length_decode (h : decode bytes = some t) : t.length ≤ bytes.length := by
  have dropped : ∀ n : Nat, (bytes.drop n).length ≤ bytes.length := fun n => by
    rw [List.length_drop]
    exact Nat.sub_le _ _
  unfold decode at h
  split at h
  · exact length_utf8Decode h
  · exact (length_utf8Decode h).trans (dropped 3)
  · next e mark _ =>
      obtain ⟨us, found, rfl⟩ := Option.map_eq_some_iff.mp h
      refine (length_paired us).trans ((length_units found).trans ?_)
      cases mark
      · exact le_refl _
      · exact dropped 2
  · next e mark _ =>
      refine (length_utf32Decode h).trans ?_
      cases mark
      · exact le_refl _
      · exact dropped 4

end Length

end Unicode
end Library
