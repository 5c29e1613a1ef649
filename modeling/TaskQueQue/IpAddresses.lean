import TaskQueQue.JsonStrings
import Mathlib.Algebra.Group.Nat.Defs
import Mathlib.Data.List.Basic

/-!
# Addresses, their texts and blocks of them

An address is a string of bytes, four or sixteen. A text denotes one: four decimal
bytes, or groups of hexadecimal digits with at most one gap of zeros, the last two
of which may be written as four decimal bytes, and perhaps a zone.

A block is the set of addresses of one version that share its leading bits.
-/

namespace IpAddresses

open JsonStrings (hexValue?)

inductive Version
  | v4
  | v6
deriving DecidableEq

structure Address where
  version : Version
  bytes : List Nat

/-! ### Texts -/

/-- Four bytes, as in `192.0.2.1`. -/
structure Quad where
  a : Fin 256
  b : Fin 256
  c : Fin 256
  d : Fin 256

namespace Quad

def bytes (q : Quad) : List Nat := [q.a, q.b, q.c, q.d]

def decimal (n : Fin 256) : List Char := Nat.toDigits 10 n

def text (q : Quad) : List Char :=
  decimal q.a ++ '.' :: (decimal q.b ++ '.' :: (decimal q.c ++ '.' :: decimal q.d))

/-- The bytes as two groups. -/
def groups (q : Quad) : List Nat := [q.a * 256 + q.b, q.c * 256 + q.d]

end Quad

def hexadecimal (c : Char) : Bool := (hexValue? c).isSome

def hexNumber (digits : List Char) : Nat :=
  digits.foldl (fun n c => n * 16 + (hexValue? c).getD 0) 0

/-- One to four hexadecimal digits. -/
structure Group where
  digits : List Char
  filled : digits ≠ []
  short : digits.length ≤ 4
  hex : ∀ c ∈ digits, hexadecimal c = true

/-- The text of an address of version 6. -/
structure LongText where
  left : List Group
  /-- What stands after `::`. -/
  right : Option (List Group) := none
  /-- The last four bytes, in decimal. -/
  quad : Option Quad := none
  zone : Option (List Char) := none
  fits : left.length + (right.getD []).length + 2 * quad.toList.length < 8 ∧ right.isSome ∨
    left.length + 2 * quad.toList.length = 8 ∧ right = none

def join : List (List Char) → List Char
  | [] => []
  | [piece] => piece
  | piece :: next :: pieces => piece ++ ':' :: join (next :: pieces)

namespace LongText

/-- The pieces after the gap, or all of them when there is none. -/
def tail (t : LongText) : List (List Char) :=
  ((t.right.getD t.left).map Group.digits) ++ t.quad.toList.map Quad.text

def plain (t : LongText) : List Char :=
  match t.right with
  | none => join t.tail
  | some _ => join (t.left.map Group.digits) ++ ':' :: ':' :: join t.tail

def text (t : LongText) : List Char :=
  match t.zone with
  | none => t.plain
  | some zone => t.plain ++ '%' :: zone

def values (groups : List Group) : List Nat := groups.map fun group => hexNumber group.digits

def groups (t : LongText) : List Nat :=
  let last := values (t.right.getD []) ++ t.quad.toList.flatMap Quad.groups
  values t.left ++ List.replicate (8 - t.left.length - last.length) 0 ++ last

def bytes (t : LongText) : List Nat := t.groups.flatMap fun group => [group / 256 % 256, group % 256]

end LongText

inductive Denotes : List Char → Address → Prop
  | quad (q : Quad) : Denotes q.text ⟨.v4, q.bytes⟩
  | long (t : LongText) : Denotes t.text ⟨.v6, t.bytes⟩

/-! ### Blocks -/

/-- The bits of some bytes, the highest of each byte first. -/
def bit (bytes : List Nat) (i : Nat) : Bool := (bytes.getD (i / 8) 0).testBit (7 - i % 8)

structure Block where
  version : Version
  stem : List Nat
  bits : Nat

def Block.Contains (block : Block) (address : Address) : Prop :=
  block.version = address.version ∧ ∀ i < block.bits, bit address.bytes i = bit block.stem i

/-- Bytes whose leading bits agree are equal where those bits cover them, and agree in
the top bits of the next. -/
theorem byte_eq_of_bits {x y : Nat} (hx : x < 256) (hy : y < 256)
    (agree : ∀ i < 8, x.testBit (7 - i) = y.testBit (7 - i)) : x = y := by
  apply Nat.eq_of_testBit_eq
  intro i
  by_cases low : i < 8
  · have at_i := agree (7 - i) (by omega)
    rwa [show 7 - (7 - i) = i by omega] at at_i
  · have high : 2 ^ 8 ≤ 2 ^ i := Nat.pow_le_pow_right (by decide) (by omega)
    rw [Nat.testBit_lt_two_pow (by omega), Nat.testBit_lt_two_pow (by omega)]

/-- The byte a block begins with is the address's, for each byte the bits cover. -/
theorem whole_byte {left right : List Nat} {n w : Nat} (agree : ∀ i < n, bit left i = bit right i)
    (covered : 8 * w + 8 ≤ n) (hl : left.getD w 0 < 256) (hr : right.getD w 0 < 256) :
    left.getD w 0 = right.getD w 0 := by
  apply byte_eq_of_bits hl hr
  intro i small
  have at_i := agree (8 * w + i) (by omega)
  rwa [bit, bit, show (8 * w + i) / 8 = w by omega, show (8 * w + i) % 8 = i by omega] at at_i

/-- The top bits of the byte in which a block ends. -/
theorem top_bits {left right : List Nat} {n w r : Nat} (agree : ∀ i < n, bit left i = bit right i)
    (covered : 8 * w + r ≤ n) (small : r < 8) (hl : left.getD w 0 < 256)
    (hr : right.getD w 0 < 256) :
    left.getD w 0 / 2 ^ (8 - r) = right.getD w 0 / 2 ^ (8 - r) := by
  apply Nat.eq_of_testBit_eq
  intro i
  rw [Nat.testBit_div_two_pow, Nat.testBit_div_two_pow]
  by_cases low : i < r
  · have at_i := agree (8 * w + (r - 1 - i)) (by omega)
    rwa [bit, bit, show (8 * w + (r - 1 - i)) / 8 = w by omega,
      show 7 - (8 * w + (r - 1 - i)) % 8 = i + (8 - r) by omega] at at_i
  · have high : 2 ^ 8 ≤ 2 ^ (i + (8 - r)) := Nat.pow_le_pow_right (by decide) (by omega)
    rw [Nat.testBit_lt_two_pow (by omega), Nat.testBit_lt_two_pow (by omega)]

end IpAddresses
