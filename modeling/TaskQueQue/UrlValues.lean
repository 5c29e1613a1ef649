import TaskQueQue.CapabilityAuth
import TaskQueQue.JsonStrings

/-!
# URLs and texts as JavaScript sees them

`new URL(text)` is the platform's; a parsed URL is the parts the gateway reads.
Trimming, splitting and percent decoding are written out.
-/

namespace UrlValues

open CapabilityAuth (encode)

/-- The parts of a parsed URL. An absent part is the empty text. -/
structure Url where
  protocol : String
  username : String := ""
  password : String := ""
  hostname : String
  port : String := ""
  search : String := ""
  hash : String := ""
  searchParams : List (String × String) := []

/-- `new URL(text)`; `none` where it throws. -/
abbrev UrlParser := String → Option Url

def Url.getAll (url : Url) (name : String) : List String :=
  (url.searchParams.filter fun entry => entry.1 == name).map Prod.snd

/-- White space and line terminators, as `trim` takes them off. -/
def isWhite (c : Char) : Bool :=
  let n := c.toNat
  decide (9 ≤ n ∧ n ≤ 13) || n == 32 || n == 160 || n == 0x1680 ||
    decide (0x2000 ≤ n ∧ n ≤ 0x200A) || n == 0x2028 || n == 0x2029 || n == 0x202F || n == 0x205F ||
    n == 0x3000 || n == 0xFEFF

def trimChars (chars : List Char) : List Char :=
  ((chars.dropWhile isWhite).reverse.dropWhile isWhite).reverse

def trim (value : String) : String := String.ofList (trimChars value.toList)

/-- The lines of a text; a carriage return before a line feed is part of the end. -/
def lines (text : String) : List (List Char) :=
  let parts := text.toList.splitOn '\n'
  parts.dropLast.map (fun part => if part.getLast? = some '\r' then part.dropLast else part) ++
    parts.getLast?.toList

/-- `/^[\x21-\x7E]+$/`. -/
def visibleText (value : String) : Bool :=
  value ≠ "" && value.toList.all fun c => decide (33 ≤ c.toNat ∧ c.toNat ≤ 126)

def startsWith (value stem : String) : Bool := stem.toList.isPrefixOf value.toList

def endsWith (value ending : String) : Bool := ending.toList.isSuffixOf value.toList

/-- Bytes with their escapes undone; `none` where an escape is not two digits. -/
def percentBytes : List Char → Option (List UInt8)
  | [] => some []
  | '%' :: a :: b :: rest =>
    match JsonStrings.hexValue? a, JsonStrings.hexValue? b with
    | some a, some b => (percentBytes rest).map fun bytes => UInt8.ofNat (a * 16 + b) :: bytes
    | _, _ => none
  | '%' :: _ => none
  | c :: rest => (percentBytes rest).map fun bytes => encode (String.singleton c) ++ bytes

/-- `decodeURIComponent`; `none` where it throws. -/
def decodeURIComponent (value : List Char) : Option String :=
  (percentBytes value).bind fun bytes => String.fromUTF8? ⟨bytes.toArray⟩

/-- A check that was passed. -/
theorem guard_ok {ε α : Type} {c : Prop} [Decidable c] {e : ε} {next : Except ε α} {value : α}
    (h : (if c then .error e else next) = .ok value) : ¬ c ∧ next = .ok value := by
  by_cases failed : c
  · rw [if_pos failed] at h
    cases h
  · rw [if_neg failed] at h
    exact ⟨failed, h⟩

end UrlValues
