import Stockroom.Text.Decimal

/-!
# UTF-8

`utf8` writes characters as bytes.  `utf8Decode` reads bytes back or says where and how they fail to be UTF-8
(`Utf8Flaw`).  It reads byte by byte: between characters a lead byte opens a character (`openUtf8`), and each further
byte must lie in the range that the bytes so far allow, which excludes overlong forms, surrogates and code points
above `10FFFF`.
-/

namespace Stockroom.Text

/-- Why bytes are not UTF-8. -/
inductive Utf8Flaw where
  /-- The `length` bytes from `index` on cannot begin a character together with the byte after them. -/
  | malformed (length index : Nat)
  /-- The character that begins at `index` is cut off by the end. -/
  | cutOff (index : Nat)
  deriving DecidableEq, Repr

def Utf8Flaw.text : Utf8Flaw → String
  | malformed length index =>
    "invalid utf-8 sequence of " ++ decimal length ++ " bytes from index " ++ decimal index
  | cutOff index => "incomplete utf-8 byte sequence from index " ++ decimal index

/-! ### Writing -/

/-- The continuation byte that carries the last six bits of a code point. -/
def continuation (n : Nat) : UInt8 :=
  UInt8.ofNat (0x80 + n % 0x40)

/-- The bytes of a code point. -/
def utf8Code (n : Nat) : List UInt8 :=
  if n < 0x80 then [UInt8.ofNat n]
  else if n < 0x800 then [UInt8.ofNat (0xC0 + n / 0x40), continuation n]
  else if n < 0x10000 then [UInt8.ofNat (0xE0 + n / 0x1000), continuation (n / 0x40), continuation n]
  else
    [UInt8.ofNat (0xF0 + n / 0x40000), continuation (n / 0x1000), continuation (n / 0x40), continuation n]

def utf8 (l : List Char) : List UInt8 :=
  l.flatMap fun c => utf8Code c.toNat

/-! ### Reading -/

/-- A character whose lead byte has been read: where it began, how many bytes are still owed, the range that the next
one must lie in, and the bits so far. -/
structure OpenUtf8 where
  start : Nat
  owed : Nat
  low : Nat
  high : Nat
  bits : Nat

/-- The character that a lead byte above `7F` opens at `start`. -/
def openUtf8 (start b : Nat) : Option OpenUtf8 :=
  if b < 0xC2 then none
  else if b < 0xE0 then some ⟨start, 1, 0x80, 0xBF, b - 0xC0⟩
  else if b = 0xE0 then some ⟨start, 2, 0xA0, 0xBF, 0⟩
  else if b = 0xED then some ⟨start, 2, 0x80, 0x9F, 0xD⟩
  else if b < 0xF0 then some ⟨start, 2, 0x80, 0xBF, b - 0xE0⟩
  else if b = 0xF0 then some ⟨start, 3, 0x90, 0xBF, 0⟩
  else if b < 0xF4 then some ⟨start, 3, 0x80, 0xBF, b - 0xF0⟩
  else if b = 0xF4 then some ⟨start, 3, 0x80, 0x8F, 4⟩
  else none

/-- Reads on at `index`, between characters or inside one. -/
def utf8DecodeFrom : Nat → Option OpenUtf8 → List UInt8 → Except Utf8Flaw (List Char)
  | _, none, [] => .ok []
  | _, some o, [] => .error (.cutOff o.start)
  | index, none, byte :: rest =>
    if byte.toNat < 0x80 then
      (utf8DecodeFrom (index + 1) none rest).map (Char.ofNat byte.toNat :: ·)
    else match openUtf8 index byte.toNat with
      | none => .error (.malformed 1 index)
      | some o => utf8DecodeFrom (index + 1) (some o) rest
  | index, some o, byte :: rest =>
    if o.low ≤ byte.toNat ∧ byte.toNat ≤ o.high then
      let bits := 0x40 * o.bits + (byte.toNat - 0x80)
      if o.owed ≤ 1 then (utf8DecodeFrom (index + 1) none rest).map (Char.ofNat bits :: ·)
      else utf8DecodeFrom (index + 1) (some ⟨o.start, o.owed - 1, 0x80, 0xBF, bits⟩) rest
    else .error (.malformed (index - o.start) o.start)

def utf8Decode (bytes : List UInt8) : Except Utf8Flaw (List Char) :=
  utf8DecodeFrom 0 none bytes

theorem utf8_append (l m : List Char) : utf8 (l ++ m) = utf8 l ++ utf8 m := by
  simp [utf8]

/-! ### Reading what was written -/

theorem continuation_toNat (n : Nat) : (continuation n).toNat = 0x80 + n % 0x40 := by
  simp only [continuation, UInt8.toNat_ofNat']
  omega

theorem byte_toNat {n : Nat} (h : n < 0x100) : (UInt8.ofNat n).toNat = n := by
  simp only [UInt8.toNat_ofNat']
  omega

theorem toNat_cases (c : Char) : c.toNat < 0xD800 ∨ (0xE000 ≤ c.toNat ∧ c.toNat < 0x110000) := by
  have h := c.valid
  simp only [UInt32.isValidChar, Nat.isValidChar] at h
  have : c.toNat = c.val.toNat := rfl
  omega

/-- The lead byte of several: it opens a character. -/
private theorem utf8DecodeFrom_lead {index b : Nat} {o : OpenUtf8} (rest : List UInt8) (hb : b < 0x100)
    (h : 0x80 ≤ b) (ho : openUtf8 index b = some o) :
    utf8DecodeFrom index none (UInt8.ofNat b :: rest) = utf8DecodeFrom (index + 1) (some o) rest := by
  simp only [utf8DecodeFrom, byte_toNat hb, ho]
  rw [if_neg (by omega)]

/-- A continuation byte in range that is not the last one. -/
private theorem utf8DecodeFrom_owed {index n : Nat} {o : OpenUtf8} (rest : List UInt8)
    (hlow : o.low ≤ 0x80 + n % 0x40) (hhigh : 0x80 + n % 0x40 ≤ o.high) (howed : 1 < o.owed) :
    utf8DecodeFrom index (some o) (continuation n :: rest) =
      utf8DecodeFrom (index + 1) (some ⟨o.start, o.owed - 1, 0x80, 0xBF, 0x40 * o.bits + n % 0x40⟩) rest := by
  simp only [utf8DecodeFrom, continuation_toNat]
  rw [if_pos ⟨hlow, hhigh⟩, if_neg (by omega), Nat.add_sub_cancel_left]

/-- The last continuation byte. -/
private theorem utf8DecodeFrom_last {index n : Nat} {o : OpenUtf8} (rest : List UInt8)
    (hlow : o.low ≤ 0x80 + n % 0x40) (hhigh : 0x80 + n % 0x40 ≤ o.high) (howed : o.owed = 1) :
    utf8DecodeFrom index (some o) (continuation n :: rest) =
      (utf8DecodeFrom (index + 1) none rest).map (Char.ofNat (0x40 * o.bits + n % 0x40) :: ·) := by
  simp only [utf8DecodeFrom, continuation_toNat]
  rw [if_pos ⟨hlow, hhigh⟩, if_pos (by omega), Nat.add_sub_cancel_left]

private theorem utf8DecodeFrom_utf8Code (index : Nat) (c : Char) (rest : List UInt8) :
    utf8DecodeFrom index none (utf8Code c.toNat ++ rest) =
      (utf8DecodeFrom (index + (utf8Code c.toNat).length) none rest).map (c :: ·) := by
  have hc := toNat_cases c
  have hback : ∀ n, n = c.toNat → Char.ofNat n = c := fun n h => by rw [h, Char.ofNat_toNat]
  generalize c.toNat = n at hc hback
  unfold utf8Code
  split
  · rename_i h
    simp only [List.cons_append, List.nil_append, utf8DecodeFrom, byte_toNat (show n < 0x100 by omega), h,
      if_true, List.length_cons, List.length_nil, hback n rfl]
  split
  · rename_i h1 h2
    simp only [List.cons_append, List.nil_append, List.length_cons, List.length_nil]
    rw [utf8DecodeFrom_lead (o := ⟨index, 1, 0x80, 0xBF, n / 0x40⟩) _ (by omega) (by omega)]
    · rw [utf8DecodeFrom_last _ (by dsimp; omega) (by dsimp; omega) rfl]
      rw [hback _ (by dsimp; omega)]
    · unfold openUtf8
      rw [if_neg (by omega), if_pos (by omega)]
      simp
  split
  · rename_i h1 h2 h3
    simp only [List.cons_append, List.nil_append, List.length_cons, List.length_nil]
    have ho : ∃ low high, openUtf8 index (0xE0 + n / 0x1000) = some ⟨index, 2, low, high, n / 0x1000⟩ ∧
        low ≤ 0x80 + n / 0x40 % 0x40 ∧ 0x80 + n / 0x40 % 0x40 ≤ high := by
      unfold openUtf8
      rw [if_neg (by omega), if_neg (by omega)]
      split
      · exact ⟨0xA0, 0xBF, by congr 2; omega, by omega, by omega⟩
      split
      · exact ⟨0x80, 0x9F, by congr 2; omega, by omega, by omega⟩
      rw [if_pos (by omega)]
      exact ⟨0x80, 0xBF, by simp, by omega, by omega⟩
    obtain ⟨low, high, ho, hlow, hhigh⟩ := ho
    rw [utf8DecodeFrom_lead _ (by omega) (by omega) ho, utf8DecodeFrom_owed _ hlow hhigh (by dsimp; omega),
      utf8DecodeFrom_last _ (by dsimp; omega) (by dsimp; omega) rfl, hback _ (by dsimp; omega)]
  · rename_i h1 h2 h3
    simp only [List.cons_append, List.nil_append, List.length_cons, List.length_nil]
    have ho : ∃ low high, openUtf8 index (0xF0 + n / 0x40000) = some ⟨index, 3, low, high, n / 0x40000⟩ ∧
        low ≤ 0x80 + n / 0x1000 % 0x40 ∧ 0x80 + n / 0x1000 % 0x40 ≤ high := by
      unfold openUtf8
      rw [if_neg (by omega), if_neg (by omega), if_neg (by omega), if_neg (by omega), if_neg (by omega)]
      split
      · exact ⟨0x90, 0xBF, by congr 2; omega, by omega, by omega⟩
      split
      · exact ⟨0x80, 0xBF, by simp, by omega, by omega⟩
      rw [if_pos (by omega)]
      exact ⟨0x80, 0x8F, by congr 2; omega, by omega, by omega⟩
    obtain ⟨low, high, ho, hlow, hhigh⟩ := ho
    rw [utf8DecodeFrom_lead _ (by omega) (by omega) ho, utf8DecodeFrom_owed _ hlow hhigh (by dsimp; omega),
      utf8DecodeFrom_owed _ (by dsimp; omega) (by dsimp; omega) (by dsimp; omega),
      utf8DecodeFrom_last _ (by dsimp; omega) (by dsimp; omega) rfl, hback _ (by dsimp; omega)]

theorem utf8Decode_utf8 (l : List Char) : utf8Decode (utf8 l) = .ok l := by
  suffices ∀ index, utf8DecodeFrom index none (utf8 l) = .ok l from this 0
  induction l with
  | nil => intro index; rfl
  | cons c l ih =>
    intro index
    simp only [utf8] at ih
    rw [utf8, List.flatMap_cons, utf8DecodeFrom_utf8Code, ih]
    rfl

end Stockroom.Text
