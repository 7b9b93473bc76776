import StructuralGrading.Text.CharacterWidth
import StructuralGrading.Text.Emoji

/-!
# Display width

How many columns a text takes up.  That is the sum of the widths of its characters, except where
some of them are shown together:

* a picture and its skin colour, pictures with joiners between them, and a character with the
  selector that makes it a picture, take up two columns; a selector can also make a picture a
  text, which has one column;
* some letters are joined to one shape in their script.

A text is read from its end, since what follows a character decides whether the character is shown
together with it: `Front` is what has been read, as far as it matters to the character before it,
and `put` puts a character in front.
-/

namespace StructuralGrading.Text

/-! ### Classes of characters -/

/-- The letters of Arabic that are joined to a lam before them. -/
def alefs : Ranges :=
  [(0x622, 0x623), (0x625, 0x625), (0x627, 0x627), (0x671, 0x673), (0x675, 0x675), (0x773, 0x774),
  (0x870, 0x882)]

/-- The letters of Arabic that are joined to an alef after them. -/
def lams : Ranges :=
  [(0x644, 0x644), (0x6B5, 0x6B8), (0x76A, 0x76A), (0x8A6, 0x8A6), (0x8C7, 0x8C7)]

/-- The characters without a column that keep letters of Arabic from being joined. -/
def separating : Ranges :=
  [(0x605, 0x605), (0x890, 0x891), (0x8E2, 0x8E2), (0x9BE, 0x9BE), (0x9D7, 0x9D7), (0xB3E, 0xB3E),
  (0xB57, 0xB57), (0xBBE, 0xBBE), (0xBD7, 0xBD7), (0xCC0, 0xCC0), (0xCC2, 0xCC2), (0xCC7, 0xCC8),
  (0xCCA, 0xCCB), (0xCD5, 0xCD6), (0xD3E, 0xD3E), (0xD4E, 0xD4E), (0xD57, 0xD57), (0xDCF, 0xDCF),
  (0xDDF, 0xDDF), (0x1160, 0x11FF), (0x1715, 0x1715), (0x1734, 0x1734), (0x180E, 0x180E),
  (0x1B35, 0x1B35), (0x1B3B, 0x1B3B), (0x1B3D, 0x1B3D), (0x1B43, 0x1B44), (0x1BAA, 0x1BAA),
  (0x1BF2, 0x1BF3), (0x200C, 0x200D), (0x2065, 0x2069), (0x302E, 0x302F), (0x3164, 0x3164),
  (0xA8FA, 0xA8FA), (0xA953, 0xA953), (0xA9C0, 0xA9C0), (0xD7B0, 0xD7C6), (0xD7CB, 0xD7FB),
  (0xFFA0, 0xFFA0), (0xFFF0, 0xFFF8), (0x111C0, 0x111C0), (0x111C2, 0x111C3), (0x11235, 0x11235),
  (0x1133E, 0x1133E), (0x1134D, 0x1134D), (0x11357, 0x11357), (0x113B8, 0x113B8),
  (0x113C2, 0x113C2), (0x113C5, 0x113C5), (0x113C7, 0x113C9), (0x113CF, 0x113CF),
  (0x113D1, 0x113D1), (0x114B0, 0x114B0), (0x114BD, 0x114BD), (0x115AF, 0x115AF),
  (0x116B6, 0x116B6), (0x11930, 0x11930), (0x1193D, 0x1193D), (0x1193F, 0x1193F),
  (0x11941, 0x11941), (0x11A3A, 0x11A3A), (0x11A84, 0x11A89), (0x11D46, 0x11D46),
  (0x11F02, 0x11F02), (0x11F41, 0x11F41), (0x16FF0, 0x16FF1), (0x1D165, 0x1D166),
  (0x1D16D, 0x1D172), (0xE0000, 0xE0000), (0xE0002, 0xE001F), (0xE0080, 0xE00FF),
  (0xE01F0, 0xE0FFF)]

/-- The consonants of Tifinagh. -/
def tifinaghConsonants : Ranges := [(0x2D31, 0x2D65), (0x2D6F, 0x2D6F)]

/-- The letters of Khmer that can be written below another. -/
def khmerSubscripts : Ranges :=
  [(0x1780, 0x1782), (0x1784, 0x1787), (0x1789, 0x178C), (0x178E, 0x1793), (0x1795, 0x1798),
  (0x179B, 0x179D), (0x17A0, 0x17A0), (0x17A2, 0x17A2), (0x17A7, 0x17A7), (0x17AB, 0x17AC),
  (0x17AF, 0x17AF)]

/-- The combining marks that are not meant to show.  They do not keep letters from being
joined. -/
def ignorableMarks : Ranges :=
  [(0x34F, 0x34F), (0x17B4, 0x17B5), (0x180B, 0x180D), (0x180F, 0x180F), (0xFE00, 0xFE0F),
  (0xE0100, 0xE01EF)]

/-- The quotation marks that come in two widths. -/
def quotationMarks : Ranges := [(0x2018, 0x2019), (0x201C, 0x201D)]

/-- Whether a character is the joiner without width. -/
def isJoiner (c : Char) : Bool := c.toNat == 0x200D

/-- Whether a character is a letter of a tag. -/
def isTagLetter (c : Char) : Bool := 0xE0061 ≤ c.toNat && c.toNat ≤ 0xE007A

/-- Whether a character is a digit of a tag. -/
def isTagDigit (c : Char) : Bool := 0xE0030 ≤ c.toNat && c.toNat ≤ 0xE0039

/-- What a selector does to the character before it. -/
inductive Selector where
  /-- It becomes a picture. -/
  | picture
  /-- It becomes a text. -/
  | text
  /-- It becomes wide. -/
  | wide
  deriving DecidableEq, Repr

/-- The selector that a character is. -/
def Selector.ofChar? (c : Char) : Option Selector :=
  if c.toNat = 0xFE0F then some picture
  else if c.toNat = 0xFE0E then some text
  else if c.toNat = 0xFE01 then some wide
  else none

/-! ### The front of a text -/

/-- What stands first in a text, as far as a character before it may be shown together with it. -/
inductive Head where
  | other
  | flagLetter
  /-- Two letters of flags or more. -/
  | flags
  | picture
  | colour
  /-- A joiner and a picture. -/
  | joined
  /-- A key cap before a joined picture. -/
  | joinedKeycap
  | joinedFlagLetter
  /-- Two letters of flags or more before a joined picture; whether their number is odd. -/
  | joinedFlags (odd : Bool)
  /-- The end of a tag before a joined picture, with the letters before that. -/
  | joinedTag (letters : Nat)
  /-- Digits in such a tag. -/
  | joinedTagDigits (digits : Nat)
  /-- The vowels e and ai of Kirat Rai. -/
  | kiratE
  | kiratAi
  | alef
  /-- The letter lamed of Hebrew; here and below, whether a joiner stands before the letter. -/
  | lamed (joined : Bool)
  /-- The letter ya of Buginese. -/
  | ya (joined : Bool)
  /-- The vowel i of Buginese before a joined ya. -/
  | vowelAndYa
  | tifinagh (joined : Bool)
  /-- The joiner of Tifinagh before a consonant. -/
  | joinedTifinagh
  /-- A tone letter of Lisu that ends a pair. -/
  | lisuTone
  /-- The letter i of Old Turkic. -/
  | orkhonI (joined : Bool)
  | khmerSubscript
  deriving DecidableEq, Repr

namespace Head

/-- Whether a head is a letter that may be joined to one before it. -/
def isLetter : Head → Bool
  | alef | lamed _ | ya _ | vowelAndYa | tifinagh _ | joinedTifinagh | lisuTone | orkhonI _
  | khmerSubscript => true
  | _ => false

/-- Whether joiners and ignorable marks before a head leave it as it is. -/
def isOpen (h : Head) : Bool := h.isLetter && h != alef

/-- A head behind a joiner. -/
def join : Head → Head
  | lamed _ => lamed true
  | ya _ => ya true
  | tifinagh _ => tifinagh true
  | orkhonI _ => orkhonI true
  | h => h

/-- The head that a character makes, and the columns it takes up on its own. -/
def ofChar (c : Char) : Int × Head :=
  let n := c.toNat
  if isFlagLetter c then (1, flagLetter)
  else if isColour c then (2, colour)
  else if pictures.has c then (2, picture)
  else if alefs.has c then (1, alef)
  else if n = 0x5DC then (1, lamed false)
  else if n = 0x1A10 then (1, ya false)
  else if tifinaghConsonants.has c then (1, tifinagh false)
  else if n = 0xA4FC ∨ n = 0xA4FD then (1, lisuTone)
  else if n = 0x10C03 then (1, orkhonI false)
  else if khmerSubscripts.has c then (1, khmerSubscript)
  else if n = 0x16D67 then (1, kiratE)
  else if n = 0x16D68 then (1, kiratAi)
  else (charWidth c, other)

/-- The columns that a character adds in front of a head with which it is shown together, and the
head of both. -/
def combine? (h : Head) (c : Char) : Option (Int × Head) :=
  let n := c.toNat
  match h with
  | other => none
  | flagLetter => if isFlagLetter c then some (1, flags) else none
  | flags =>
    if isFlagLetter c then some (1, flags) else if isJoiner c then some (0, joined) else none
  | picture => if isJoiner c then some (0, joined) else none
  | colour =>
    if colourable.has c then some (0, picture)
    else if isJoiner c then some (0, joined)
    else none
  | joined =>
    if n = 0x20E3 then some (0, joinedKeycap)
    else if isFlagLetter c then some (1, joinedFlagLetter)
    else if isColour c then some (0, colour)
    else if n = 0xE007F then some (0, joinedTag 0)
    else if pictures.has c then some (0, picture)
    else none
  | joinedKeycap => none
  | joinedFlagLetter => if isFlagLetter c then some (-1, joinedFlags false) else none
  | joinedFlags odd =>
    if isFlagLetter c then some (if odd then -1 else 3, joinedFlags !odd)
    else if isJoiner c then some (0, joined)
    else none
  | joinedTag letters =>
    if isTagLetter c && decide (letters < 6) then some (0, joinedTag (letters + 1))
    else if isTagDigit c && decide (letters < 5) then some (0, joinedTagDigits 1)
    else if n = 0x1F3F4 ∧ 3 ≤ letters then some (0, picture)
    else none
  | joinedTagDigits digits =>
    if isTagDigit c && decide (digits < 3) then some (0, joinedTagDigits (digits + 1))
    else if n = 0x1F3F4 ∧ digits = 3 then some (0, picture)
    else none
  | kiratE =>
    if n = 0x16D63 ∨ n = 0x16D69 then some (0, other)
    else if n = 0x16D67 then some (0, kiratAi)
    else if n = 0x16D68 then some (1, kiratE)
    else none
  | kiratAi => if n = 0x16D63 then some (0, other) else none
  | alef =>
    if lams.has c then some (0, other)
    else if charWidth c == 0 && !separating.has c then some (0, alef)
    else none
  | lamed near => if near && n == 0x5D0 then some (0, other) else none
  | ya near => if near && n == 0x1A17 then some (0, vowelAndYa) else none
  | vowelAndYa => if n = 0x1A15 then some (0, other) else none
  | tifinagh near =>
    if n = 0x2D7F then some (1, joinedTifinagh)
    else if near && tifinaghConsonants.has c then some (0, other)
    else none
  | joinedTifinagh => if tifinaghConsonants.has c then some (-1, other) else none
  | lisuTone => if 0xA4F8 ≤ n ∧ n ≤ 0xA4FB then some (0, other) else none
  | orkhonI near => if near && n == 0x10C32 then some (0, other) else none
  | khmerSubscript => if n = 0x17D2 then some (-1, other) else none

end Head

/-- What has been read of a text from its end: what stands first, and a selector before it that
applies to the next character. -/
structure Front where
  head : Head
  selector : Option Selector
  deriving DecidableEq, Repr

namespace Front

/-- The front of the empty text. -/
def empty : Front := ⟨.other, none⟩

/-- The columns of a character that the selector applies to, and the front they make. -/
def select? (f : Front) (c : Char) : Option (Int × Front) :=
  match f.selector with
  | some .picture =>
    if selectable.has c then
      let width := if f.head = .joined ∨ f.head = .joinedKeycap then 0 else 2
      some (width, ⟨.picture, none⟩)
    else none
  | some .text =>
    if pictures.has c && selectable.has c && !(0x1F200 ≤ c.toNat && c.toNat ≤ 0x1F2FF) then
      some (1, empty)
    else none
  | some .wide => if quotationMarks.has c then some (2, empty) else none
  | none => none

/-- The head that is left where the selector does not apply. -/
def unselected (f : Front) : Head :=
  match f.selector with
  | some .picture => if f.head.isLetter then f.head else .other
  | _ => f.head

/-- A selector before a head.  It comes between a picture and its joiner, unless it is the selector
for pictures. -/
def ofSelector (s : Selector) (h : Head) : Front :=
  if h.isLetter ∨ (s = .picture ∧ (h = .joined ∨ h = .joinedKeycap)) then ⟨h, some s⟩
  else ⟨.other, some s⟩

/-- Puts a character in front: the columns it adds, and the new front. -/
def put (f : Front) (c : Char) : Int × Front :=
  match f.select? c with
  | some r => r
  | none =>
    let h := f.unselected
    if c.toNat ≤ 0xA0 then (1, empty)
    else
      match Selector.ofChar? c with
      | some s => (0, ofSelector s h)
      | none =>
        if h.isOpen && isJoiner c then (0, ⟨h.join, none⟩)
        else if h.isOpen && ignorableMarks.has c then (0, ⟨h, none⟩)
        else
          let (columns, h) := (h.combine? c).getD (Head.ofChar c)
          (columns, ⟨h, none⟩)

end Front

/-- The columns that a text takes up, and its front. -/
def measure (cs : List Char) : Int × Front :=
  cs.foldr (fun c (columns, front) =>
    let (more, front) := front.put c
    (columns + more, front)) (0, .empty)

/-- The columns that a text takes up. -/
def width (s : String) : Nat := (measure s.toList).1.toNat

end StructuralGrading.Text
