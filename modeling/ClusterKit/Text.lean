import ClusterKit.Validation
import ClusterKit.Lib.StripEnds

/-! Texts as lists of characters, with the methods on strings that the readers of files and
options call. Numbers are exact. -/

namespace ClusterKit

abbrev Text := List Char

/-- `String.prototype.trim` -/
def trim (text : Text) : Text := StripEnds.strip isTrimmed text

/-- `String.prototype.trimEnd` -/
def trimEnd (text : Text) : Text := text.rdropWhile isTrimmed

/-- `String.prototype.indexOf`; `none` is -1. -/
def indexOf (pattern : Text) : Text → Option Nat
  | [] => if pattern = [] then some 0 else none
  | c :: rest =>
    if pattern.isPrefixOf (c :: rest) then some 0 else (indexOf pattern rest).map (· + 1)

/-- Any number from 36 on stands for a character that is no digit. -/
def digitValue (c : Char) : Nat :=
  if '0' ≤ c ∧ c ≤ '9' then c.toNat - '0'.toNat
  else if 'a' ≤ c ∧ c ≤ 'z' then 10 + (c.toNat - 'a'.toNat)
  else if 'A' ≤ c ∧ c ≤ 'Z' then 10 + (c.toNat - 'A'.toNat)
  else 36

/-- A text of at least one digit and of digits only. -/
def numeral (radix : Nat) (text : Text) : Option Nat :=
  if text ≠ [] ∧ text.all (fun c => decide (digitValue c < radix)) then
    some (text.foldl (fun n c => radix * n + digitValue c) 0)
  else none

/-- `Number.parseInt(text, 10)`, which reads as far as there are digits; `none` is `NaN`. -/
def parseInt (text : Text) : Option Int :=
  let digits (rest : Text) := numeral 10 (rest.takeWhile Char.isDigit)
  match text.dropWhile isTrimmed with
  | '-' :: rest => (digits rest).map fun n => -(n : Int)
  | '+' :: rest => (digits rest).map Int.ofNat
  | rest => (digits rest).map Int.ofNat

/-- `BigInt(text)`, which reads all of it; `none` is a `SyntaxError`. -/
def parseBigInt (text : Text) : Option Int :=
  match trim text with
  | [] => some 0
  | '0' :: 'x' :: rest | '0' :: 'X' :: rest => (numeral 16 rest).map Int.ofNat
  | '0' :: 'o' :: rest | '0' :: 'O' :: rest => (numeral 8 rest).map Int.ofNat
  | '0' :: 'b' :: rest | '0' :: 'B' :: rest => (numeral 2 rest).map Int.ofNat
  | '-' :: rest => (numeral 10 rest).map fun n => -(n : Int)
  | '+' :: rest => (numeral 10 rest).map Int.ofNat
  | rest => (numeral 10 rest).map Int.ofNat

end ClusterKit
