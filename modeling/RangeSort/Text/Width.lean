import RangeSort.Text.CharWidth
import RangeSort.Text.Joining
import RangeSort.Text.Pictures

/-! How many places of a fixed grid a text takes. Most characters take their own width, but
some merge with what follows them: letters to ligatures, pictures to one picture. So a text
is measured from its end, and the state says what the characters so far can merge with. -/

namespace RangeSort

/-- The first thing in the text so far, if it can change the width of what comes before. -/
inductive Follower where
  | plain
  | alef
  | lamed
  | coengLetter
  | ya
  | yaWithVowel
  | tifinagh
  | tifinaghJoiner
  | lisuTone
  | orkhonI
  | kiratRaiE
  | kiratRaiAI
  | skinColour
  | picture
  | flagHalf
  | flagHalves
  | joinedPicture
  | joinedKeycap
  | joinedFlagHalf
  | joinedFlags
  | joinedFlagsAndHalf
  | tagLetters (count : Nat)
  | tagDigits (count : Nat)
  deriving DecidableEq, Repr

/-- How a selector asks for the character before it to be shown. -/
inductive Style where
  | text
  | picture
  deriving DecidableEq, Repr

structure Following where
  first : Follower
  /-- Whether a joiner stands before `first`. -/
  joined : Bool
  style : Option Style
  deriving DecidableEq, Repr

namespace Following

def before (first : Follower) : Following := ⟨first, false, none⟩

end Following

namespace Follower

def joiner : Nat := 0x200D

def isFlagLetter (n : Nat) : Bool := 0x1F1E6 ≤ n && n ≤ 0x1F1FF

def isSkinColour (n : Nat) : Bool := 0x1F3FB ≤ n && n ≤ 0x1F3FF

def isTifinagh (n : Nat) : Bool := (0x2D31 ≤ n && n ≤ 0x2D65) || n == 0x2D6F

def isAlef (n : Nat) : Bool :=
  [0x622, 0x623, 0x625, 0x627, 0x671, 0x672, 0x673, 0x675, 0x773, 0x774].contains n ||
    (0x870 ≤ n && n ≤ 0x882)

def isLam (n : Nat) : Bool :=
  [0x644, 0x6B5, 0x6B6, 0x6B7, 0x6B8, 0x76A, 0x8A6, 0x8C7].contains n

/-- The Khmer letters that have a form below another letter. -/
def isCoengLetter (n : Nat) : Bool :=
  let without := [0x1783, 0x1788, 0x178D, 0x1794, 0x1799, 0x179A, 0x179E, 0x179F, 0x17A1, 0x17A3,
    0x17A4, 0x17A5, 0x17A6, 0x17A8, 0x17A9, 0x17AA, 0x17AD, 0x17AE]
  0x1780 ≤ n && n ≤ 0x17AF && !without.contains n

/-- What a character opens that merges with nothing after it. -/
def ofChar (c : Char) : Follower :=
  let n := c.toNat
  if isAlef n then .alef
  else if n == 0x5DC then .lamed
  else if isCoengLetter n then .coengLetter
  else if n == 0x1A10 then .ya
  else if isTifinagh n then .tifinagh
  else if n == 0xA4FC || n == 0xA4FD then .lisuTone
  else if n == 0x10C03 then .orkhonI
  else if n == 0x16D67 then .kiratRaiE
  else if n == 0x16D68 then .kiratRaiAI
  else if isFlagLetter n then .flagHalf
  else if isSkinColour n then .skinColour
  else if pictures.contains c then .picture
  else .plain

/-- Whether a joiner or a selector may stand before the follower without parting it from
the letter it merges with. -/
def isLetter : Follower → Bool
  | .lamed | .coengLetter | .ya | .yaWithVowel | .tifinagh | .tifinaghJoiner => true
  | .lisuTone | .orkhonI | .kiratRaiE | .kiratRaiAI => true
  | _ => false

def isJoined : Follower → Bool
  | .joinedPicture | .joinedKeycap => true
  | _ => false

/-- What a letter adds to the width when it merges with `first`, and what the two open. -/
def mergeLetter (first : Follower) (joined : Bool) (c : Char) : Option (Int × Follower) :=
  let n := c.toNat
  match first with
  | .alef =>
    if isLam n then some (0, .plain)
    else if charWidth c == 0 && isTransparent c then some (0, .alef)
    else none
  | .lamed => if joined && n == 0x5D0 then some (0, .plain) else none
  | .coengLetter => if n == 0x17D2 then some (-1, .plain) else none
  | .ya => if joined && n == 0x1A17 then some (0, .yaWithVowel) else none
  | .yaWithVowel => if n == 0x1A15 then some (0, .plain) else none
  | .tifinagh =>
    if n == 0x2D7F then some (1, .tifinaghJoiner)
    else if joined && isTifinagh n then some (0, .plain)
    else none
  | .tifinaghJoiner => if isTifinagh n then some (-1, .plain) else none
  | .lisuTone => if 0xA4F8 ≤ n && n ≤ 0xA4FB then some (0, .plain) else none
  | .orkhonI => if joined && n == 0x10C32 then some (0, .plain) else none
  | .kiratRaiE =>
    if n == 0x16D63 || n == 0x16D69 then some (0, .plain)
    else if n == 0x16D67 then some (0, .kiratRaiAI)
    else if n == 0x16D68 then some (1, .kiratRaiE)
    else none
  | .kiratRaiAI => if n == 0x16D63 then some (0, .plain) else none
  | _ => none

/-- The same for pictures. A chain of joined pictures takes the place of its last one; flags
are pairs of letters, or a black flag with tags. -/
def mergePicture (first : Follower) (c : Char) : Option (Int × Follower) :=
  let n := c.toNat
  match first with
  | .skinColour =>
    if skinBases.contains c then some (0, .picture)
    else if n == joiner then some (0, .joinedPicture)
    else none
  | .picture => if n == joiner then some (0, .joinedPicture) else none
  | .flagHalf => if isFlagLetter n then some (1, .flagHalves) else none
  | .flagHalves =>
    if isFlagLetter n then some (1, .flagHalves)
    else if n == joiner then some (0, .joinedPicture)
    else none
  | .joinedPicture =>
    if n == 0x20E3 then some (0, .joinedKeycap)
    else if isFlagLetter n then some (1, .joinedFlagHalf)
    else if isSkinColour n then some (0, .skinColour)
    else if n == 0xE007F then some (0, .tagLetters 0)
    else if pictures.contains c then some (0, .picture)
    else none
  | .joinedFlagHalf => if isFlagLetter n then some (-1, .joinedFlags) else none
  | .joinedFlags =>
    if isFlagLetter n then some (3, .joinedFlagsAndHalf)
    else if n == joiner then some (0, .joinedPicture)
    else none
  | .joinedFlagsAndHalf =>
    if isFlagLetter n then some (-1, .joinedFlags)
    else if n == joiner then some (0, .joinedPicture)
    else none
  | .tagLetters count =>
    if 0xE0061 ≤ n && n ≤ 0xE007A && count < 6 then some (0, .tagLetters (count + 1))
    else if 0xE0030 ≤ n && n ≤ 0xE0039 && count < 5 then some (0, .tagDigits 1)
    else if n == 0x1F3F4 && 3 ≤ count then some (0, .picture)
    else none
  | .tagDigits count =>
    if 0xE0030 ≤ n && n ≤ 0xE0039 && count < 3 then some (0, .tagDigits (count + 1))
    else if n == 0x1F3F4 && count == 3 then some (0, .picture)
    else none
  | _ => none

end Follower

namespace Following

/-- Pictures that show as text when a selector asks for it. -/
def isPlainInText (c : Char) : Bool :=
  restyled.contains c && pictures.contains c && !(0x1F200 ≤ c.toNat && c.toNat ≤ 0x1F2FF)

def selected (f : Following) (style : Style) : Following :=
  let kept := f.first.isLetter || f.first == .alef || (style == .picture && f.first.isJoined)
  { f with first := if kept then f.first else .plain, style := some style }

/-- What a character adds before `f`, apart from selectors. -/
def pushChar (f : Following) (c : Char) : Int × Following :=
  if f.first.isLetter && c.toNat == Follower.joiner then (0, { f with joined := true })
  else if f.first.isLetter && ignorable.contains c && nonspacingMarks.contains c then (0, f)
  else match (f.first.mergeLetter f.joined c).or (f.first.mergePicture c) with
    | some (width, first) => (width, before first)
    | none => (charWidth c, before (.ofChar c))

/-- What a character adds to the width of the text that `f` follows it with, and what the
longer text starts with. -/
def push (f : Following) (c : Char) : Int × Following :=
  if f.style == some .picture && restyled.contains c then
    (if f.first.isJoined then 0 else 2, before .picture)
  else
    let f := if f.style == some .picture && f.first.isJoined then before .plain else f
    if c.toNat ≤ 0xA0 then (1, before .plain)
    else if c.toNat == 0xFE0F then (0, f.selected .picture)
    else if c.toNat == 0xFE0E then (0, f.selected .text)
    else if f.style == some .text && isPlainInText c then (1, before .plain)
    else { f with style := none }.pushChar c

end Following

def textWidth (s : String) : Nat :=
  let step (c : Char) (state : Int × Following) : Int × Following :=
    let (width, following) := state.2.push c
    (state.1 + width, following)
  (s.toList.foldr step (0, .before .plain)).1.toNat

end RangeSort
