import Calculator.Text.Combining
import Calculator.Text.Printable

namespace Calculator

/-- Texts are lists of characters, so that what is typed, shown and read is followed character by character. -/
abbrev Text := List Char

/-- The white space characters, first and last of each run: controls that move the writing position, the space
and its variants of other widths, and the line and paragraph separators. -/
def blankRanges : List (Nat × Nat) :=
  [(0x9, 0xD), (0x20, 0x20), (0x85, 0x85), (0xA0, 0xA0), (0x1680, 0x1680), (0x2000, 0x200A), (0x2028, 0x2029),
    (0x202F, 0x202F), (0x205F, 0x205F), (0x3000, 0x3000)]

/-- Whether a character is white space, which key texts may hold anywhere. -/
def isBlank (c : Char) : Bool := blankRanges.any fun (first, last) => first ≤ c.toNat ∧ c.toNat ≤ last

/-- A text without the white space before and after it. -/
def trimBlanks (t : Text) : Text := ((t.dropWhile isBlank).reverse.dropWhile isBlank).reverse

/-- A text that neither begins nor ends with white space has none to lose. -/
theorem trimBlanks_eq_self {t : Text} (first : ∀ c ∈ t.head?, isBlank c = false)
    (last : ∀ c ∈ t.getLast?, isBlank c = false) : trimBlanks t = t := by
  have kept {t : Text} (first : ∀ c ∈ t.head?, isBlank c = false) : t.dropWhile isBlank = t := by
    cases t with
    | nil => rfl
    | cons c rest => exact List.dropWhile_cons_of_neg (by simp [first c rfl])
  rw [trimBlanks, kept first, kept (by rwa [List.head?_reverse]), List.reverse_reverse]

/-- A character inside quotes. The quote itself, the backslash and four controls have short escapes; a character
with no picture of its own, or one that would join the character before it, is written as its number. -/
def escape (quote c : Char) : Text :=
  if c = '\x00' then ['\\', '0']
  else if c = '\t' then ['\\', 't']
  else if c = '\r' then ['\\', 'r']
  else if c = '\n' then ['\\', 'n']
  else if c = quote ∨ c = '\\' then ['\\', c]
  else if isCombining c ∨ ¬isPrintable c then ['\\', 'u', '\x7b'] ++ Nat.toDigits 16 c.toNat ++ ['\x7d']
  else [c]

/-- A text between two quotes, its characters escaped. -/
def quoted (quote : Char) (t : Text) : Text := quote :: t.flatMap (escape quote) ++ [quote]

namespace Text

/-- The parts of a text between the separators in it, empty ones too. -/
def parts (separator : Char) (t : Text) : List Text :=
  t.foldr (fun c parts => if c = separator then [] :: parts else parts.modifyHead (c :: ·)) [[]]

/-- A text without the separator is a single part. -/
theorem parts_of_notMem {separator : Char} {t : Text} (absent : separator ∉ t) : parts separator t = [t] := by
  induction t with
  | nil => rfl
  | cons c rest ih =>
    simp only [List.mem_cons, not_or] at absent
    have tail := ih absent.2
    simp only [parts] at tail
    simp only [parts, List.foldr_cons, tail, if_neg (Ne.symm absent.1), List.modifyHead_cons]

theorem parts_ne_nil (separator : Char) (t : Text) : parts separator t ≠ [] := by
  induction t with
  | nil => exact List.cons_ne_nil _ _
  | cons c rest ih =>
    simp only [parts] at ih
    simp only [parts, List.foldr_cons]
    split
    · exact List.cons_ne_nil _ _
    · simpa using ih

/-- A separator ends the parts before it. -/
theorem parts_append (separator : Char) (before after : Text) :
    parts separator (before ++ separator :: after) = parts separator before ++ parts separator after := by
  induction before with
  | nil => simp [parts]
  | cons c rest ih =>
    obtain ⟨first, others, split⟩ := List.exists_cons_of_ne_nil (parts_ne_nil separator rest)
    simp only [parts] at ih split
    simp only [parts, List.cons_append, List.foldr_cons, ih, split]
    by_cases same : c = separator
    · simp only [if_pos same, List.cons_append]
    · simp only [if_neg same, List.cons_append, List.modifyHead_cons]

/-- The bytes that a text takes up in storage, one to four for a character. -/
def byteCount : Text → Nat
  | [] => 0
  | c :: rest => c.utf8Size + byteCount rest

/-- The characters that lie whole within the first bytes of a text. -/
def takeBytes : Nat → Text → Text
  | _, [] => []
  | n, c :: rest => if c.utf8Size ≤ n then c :: takeBytes (n - c.utf8Size) rest else []

/-- The characters that begin after the first bytes of a text. -/
def dropBytes : Nat → Text → Text
  | _, [] => []
  | 0, t => t
  | n + 1, c :: rest => dropBytes (n + 1 - c.utf8Size) rest

theorem byteCount_append (first second : Text) :
    byteCount (first ++ second) = byteCount first + byteCount second := by
  induction first with
  | nil => exact (Nat.zero_add _).symm
  | cons c rest ih => rw [List.cons_append, byteCount, byteCount, ih, Nat.add_assoc]

theorem takeBytes_append (first second : Text) : takeBytes (byteCount first) (first ++ second) = first := by
  induction first with
  | nil =>
    cases second with
    | nil => rfl
    | cons c rest =>
      have positive := c.utf8Size_pos
      rw [byteCount, List.nil_append, takeBytes, if_neg (by omega)]
  | cons c rest ih =>
    rw [byteCount, List.cons_append, takeBytes, if_pos (Nat.le_add_right _ _), Nat.add_sub_cancel_left, ih]

theorem dropBytes_append (first second : Text) : dropBytes (byteCount first) (first ++ second) = second := by
  induction first with
  | nil => cases second <;> rfl
  | cons c rest ih =>
    obtain ⟨n, size⟩ := Nat.exists_eq_add_of_lt c.utf8Size_pos
    rw [Nat.zero_add] at size
    have next : byteCount (c :: rest) = (n + byteCount rest) + 1 := by
      rw [byteCount]
      omega
    rw [next, List.cons_append, dropBytes, show n + byteCount rest + 1 - c.utf8Size = byteCount rest by omega]
    exact ih

end Text

end Calculator
