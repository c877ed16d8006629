import Findings.Text.Columns
import Findings.Text.Emoji

/-!
How many columns a text takes in a table drawn with characters of one width.

A text is measured from its end to its beginning. Most characters take columns of their own, but
some join what stands behind them: pictures with a colour of skin, pictures and tags with a joiner
between them, signs of regions in pairs, and letters of several scripts. A selector changes how the
character before it is drawn. So a step knows what stands behind its character, and it may take
columns back that were counted there.
-/

namespace Findings.Text.Width

/-! ## What stands behind a character -/

/-- Letters that join what stands before them, on condition that nothing but marks without a shape
or joiners stands between. -/
inductive Letter where
  | lamed
  | buginese
  /-- A Buginese vowel with the letter that it is joined to. -/
  | bugineseVowel
  | tifinagh
  /-- The Tifinagh joiner with the letter behind it. -/
  | tifinaghJoiner
  | lisu
  | turkic
  | khmer
  deriving DecidableEq, Repr

/-- A joiner before a picture, and what was read before the joiner. -/
inductive Joint where
  | bare
  | keycap
  | firstRegion
  | evenRegions
  | oddRegions
  /-- The end of a row of tags, with so many letters or digits before it. -/
  | tags (letters digits : Nat)
  deriving DecidableEq, Repr

/-- What stands behind a character. -/
inductive Behind where
  | nothing
  | skin
  | region
  | regions
  | picture
  | joint (j : Joint)
  | alef
  /-- The vowels of Kirat Rai that are made of one or two strokes. -/
  | stroke
  | strokes
  /-- A letter, perhaps with a joiner before it. -/
  | letter (l : Letter) (joined : Bool)
  deriving DecidableEq, Repr

/-- A character that says how the one before it is drawn. -/
inductive Selector where
  | picture
  | text
  | wide
  deriving DecidableEq, Repr

/-- All that stands behind a character. -/
structure State where
  selector : Option Selector := none
  behind : Behind := .nothing
  deriving DecidableEq, Repr

/-! ## Characters -/

/-- The mark that joins what stands on its two sides. -/
def joiner : Char := '\u200D'

/-- A mark without a shape. -/
def isShapeless (c : Char) : Bool :=
  inRanges [(0x34F, 0x34F), (0x17B4, 0x17B5), (0x180B, 0x180D), (0x180F, 0x180F),
    (0xFE00, 0xFE0F), (0xE0100, 0xE01EF)] c.toNat

/-- The Arabic letters like lam, which join an alef behind them. -/
def isLam (c : Char) : Bool :=
  inRanges [(0x644, 0x644), (0x6B5, 0x6B8), (0x76A, 0x76A), (0x8A6, 0x8A6), (0x8C7, 0x8C7)] c.toNat

/-- The Arabic letters like alef. -/
def isAlef (c : Char) : Bool :=
  inRanges [(0x622, 0x623), (0x625, 0x625), (0x627, 0x627), (0x671, 0x673), (0x675, 0x675),
    (0x773, 0x774), (0x870, 0x882)] c.toNat

/-- The Khmer letters that have a form below the line. -/
def isKhmer (c : Char) : Bool :=
  inRanges [(0x1780, 0x1782), (0x1784, 0x1787), (0x1789, 0x178C), (0x178E, 0x1793),
    (0x1795, 0x1798), (0x179B, 0x179D), (0x17A0, 0x17A0), (0x17A2, 0x17A2), (0x17A7, 0x17A7),
    (0x17AB, 0x17AC), (0x17AF, 0x17AF)] c.toNat

/-- The Tifinagh consonants. -/
def isTifinagh (c : Char) : Bool := isBetween 0x2D31 0x2D65 c || c == '\u2D6F'

/-- Quotation marks of which there is a wide form. -/
def isQuotation (c : Char) : Bool := ['\u2018', '\u2019', '\u201C', '\u201D'].contains c

/-- The selector that a character is. -/
def Selector.ofChar? (c : Char) : Option Selector :=
  match c with
  | '\uFE0F' => some .picture
  | '\uFE0E' => some .text
  | '\uFE01' => some .wide
  | _ => none

/-- What a character is to the one before it, where nothing joins it to what stands behind it. -/
def Behind.ofChar (c : Char) : Behind :=
  if c.val ≤ 0xA0 then .nothing
  else if Emoji.isSkin c then .skin
  else if Emoji.isRegional c then .region
  else if Emoji.isPicture c then .picture
  else if isAlef c then .alef
  else if isKhmer c then .letter .khmer false
  else if isTifinagh c then .letter .tifinagh false
  else match c.toNat with
    | 0x5DC => .letter .lamed false
    | 0x1A10 => .letter .buginese false
    | 0xA4FC | 0xA4FD => .letter .lisu false
    | 0x10C03 => .letter .turkic false
    | 0x16D67 => .stroke
    | 0x16D68 => .strokes
    | _ => .nothing

/-! ## Steps -/

/-- The columns that a step adds, and what then stands behind the next character. -/
abbrev Step := Int × Behind

/-- A character that nothing joins to what stands behind it. -/
def apart (c : Char) : Step := (columns c, Behind.ofChar c)

/-- The step of a character before a letter. -/
def stepLetter (l : Letter) (joined : Bool) (c : Char) : Step :=
  if c = joiner then (0, .letter l true)
  else if isShapeless c then (0, .letter l joined)
  else match l, joined, c.toNat with
    | .lamed, true, 0x5D0 => (0, .nothing)
    | .khmer, _, 0x17D2 => (-1, .nothing)
    | .buginese, true, 0x1A17 => (0, .letter .bugineseVowel true)
    | .bugineseVowel, _, 0x1A15 => (0, .nothing)
    | .tifinagh, _, 0x2D7F => (1, .letter .tifinaghJoiner true)
    | .tifinagh, true, _ => if isTifinagh c then (0, .nothing) else apart c
    | .tifinaghJoiner, _, _ => if isTifinagh c then (-1, .nothing) else apart c
    | .lisu, _, _ => if isBetween 0xA4F8 0xA4FB c then (0, .nothing) else apart c
    | .turkic, true, 0x10C32 => (0, .nothing)
    | _, _, _ => apart c

/-- The step of a character before the end of a row of tags: up to six letters or up to three
digits, with digits also before four letters or fewer, and a flag before them. -/
def stepTags (letters digits : Nat) (c : Char) : Step :=
  if Emoji.isTagLetter c && digits == 0 && letters < 6 then (0, .joint (.tags (letters + 1) 0))
  else if Emoji.isTagDigit c && (digits == 0 && letters < 5 || 0 < digits && digits < 3) then
    (0, .joint (.tags letters (digits + 1)))
  else if c.toNat = 0x1F3F4 && (digits == 3 || digits == 0 && 3 ≤ letters) then (0, .picture)
  else apart c

/-- The step of a character before a joiner with a picture behind it. -/
def stepJoint (j : Joint) (c : Char) : Step :=
  match j with
  | .bare =>
    if c.toNat = 0x20E3 then (0, .joint .keycap)
    else if Emoji.isRegional c then (1, .joint .firstRegion)
    else if Emoji.isSkin c then (0, .skin)
    else if c.toNat = 0xE007F then (0, .joint (.tags 0 0))
    else if Emoji.isPicture c then (0, .picture)
    else apart c
  | .keycap => apart c
  | .firstRegion => if Emoji.isRegional c then (-1, .joint .evenRegions) else apart c
  | .oddRegions =>
    if Emoji.isRegional c then (-1, .joint .evenRegions)
    else if c = joiner then (0, .joint .bare)
    else apart c
  | .evenRegions =>
    if Emoji.isRegional c then (3, .joint .oddRegions)
    else if c = joiner then (0, .joint .bare)
    else apart c
  | .tags letters digits => stepTags letters digits c

/-- The step of a character that no selector follows. -/
def step (b : Behind) (c : Char) : Step :=
  if c.val ≤ 0xA0 then apart c
  else match b with
    | .nothing => apart c
    | .skin =>
      if Emoji.isSkinned c then (0, .picture)
      else if c = joiner then (0, .joint .bare)
      else apart c
    | .region => if Emoji.isRegional c then (1, .regions) else apart c
    | .regions =>
      if Emoji.isRegional c then (1, .regions)
      else if c = joiner then (0, .joint .bare)
      else apart c
    | .picture => if c = joiner then (0, .joint .bare) else apart c
    | .joint j => stepJoint j c
    | .alef =>
      if isLam c then (0, .nothing) else if isJoinedAcross c then (0, .alef) else apart c
    | .stroke =>
      match c.toNat with
      | 0x16D63 | 0x16D69 => (0, .nothing)
      | 0x16D67 => (0, .strokes)
      | 0x16D68 => (1, .stroke)
      | _ => apart c
    | .strokes => if c.toNat = 0x16D63 then (0, .nothing) else apart c
    | .letter l joined => stepLetter l joined c

/-- The step of a character that a selector follows, if the selector is about it. -/
def Selector.step? (s : Selector) (b : Behind) (c : Char) : Option Step :=
  match s with
  | .picture =>
    if !Emoji.isEither c then none
    else match b with
      | .joint _ => some (0, .picture)
      | _ => some (2, .picture)
  | .text =>
    if Emoji.isEither c && Emoji.isPicture c && !isBetween 0x1F200 0x1F2FF c then
      some (1, .nothing)
    else none
  | .wide => if isQuotation c then some (2, .nothing) else none

/-- What stands behind the characters before a selector. Letters join across it, and before a
picture with a joiner a picture may be selected. -/
def Selector.keep (s : Selector) (b : Behind) : Behind :=
  match s, b with
  | _, .alef | _, .letter _ _ | .picture, .joint .bare | .picture, .joint .keycap => b
  | _, _ => .nothing

/-- What stands behind a character that the selector behind it is not about. -/
def Behind.unselected (b : Behind) : Behind :=
  match b with
  | .joint _ => .nothing
  | b => b

/-- The columns that a character adds, and the state before it. -/
def State.step (s : State) (c : Char) : Int × State :=
  match s.selector.bind (·.step? s.behind c) with
  | some (n, behind) => (n, { behind })
  | none =>
    let behind := if s.selector.isSome then s.behind.unselected else s.behind
    match Selector.ofChar? c with
    | some selector => (0, { selector := some selector, behind := selector.keep behind })
    | none =>
      let (n, behind) := Width.step behind c
      (n, { behind })

/-- The columns of a text, and the state before it. -/
def measure : List Char → Int × State
  | [] => (0, {})
  | c :: rest =>
    let (total, s) := measure rest
    let (n, s) := s.step c
    (total + n, s)

end Width

/-- The columns of a line. -/
def width (line : List Char) : Nat := (Width.measure line).1.toNat

end Findings.Text
