/-
# Exchanging octets

The utility that exchanges octets for others: each octet of a first set becomes the one
at the same place in a second set, whose last octet stands for all places beyond it. It
can also delete the octets of a set, or squeeze runs of them.
-/

import ReleaseBuilder.Machine.Escapes
import ReleaseBuilder.Machine.Shell.Pattern
import ReleaseBuilder.Machine.Utility.Octets

namespace ReleaseBuilder.Machine.Utility

namespace Exchange

/-- A member of a set. -/
inductive SetPart where
  | chars (cs : List Char)
  | kind (name : String)
  /-- A character again and again; without a count as often as is needed. -/
  | repeated (c : Char) (count : Nat)

/-- A character of a set, with the mark whether it was escaped. -/
def charsOf : Nat → List Char → List (Char × Bool)
  | 0, _ | _, [] => []
  | fuel + 1, '\\' :: rest =>
    match octalAt? 3 rest, rest with
    | some (c, later), _ =>
      let digits := (rest.take 3).takeWhile isOctal
      if 255 < Shell.numberOf 8 digits then
        (octetChar (Shell.numberOf 8 (digits.take 2)), true) :: charsOf fuel (rest.drop 2)
      else (c, true) :: charsOf fuel later
    | none, c :: later =>
      (if c = 'e' then 'e' else (controlOf? c).getD c, true) :: charsOf fuel later
    | none, [] => [('\\', false)]
  | fuel + 1, c :: rest => (c, false) :: charsOf fuel rest

/-- The characters from one to another. -/
def rangeOf (first last : Char) : List Char :=
  (List.range (last.toNat + 1 - first.toNat)).map fun i => Char.ofNat (first.toNat + i)

/-- The name in a bracket that is closed by the same mark, and what follows it. -/
def named? (mark : Char) (cs : List (Char × Bool)) : Option (List Char × List (Char × Bool)) :=
  let inner := cs.takeWhile fun c => c.1 ≠ mark || c.2
  match cs.drop inner.length with
  | _ :: (']', false) :: later => some (inner.map Prod.fst, later)
  | _ => none

/-- The members of a set, or what is wrong with it. -/
def members : Nat → List (Char × Bool) → Except String (List SetPart)
  | 0, _ | _, [] => .ok []
  | fuel + 1, ('[', false) :: (':', false) :: rest =>
    match named? ':' rest with
    | some (name, later) =>
      let name := String.ofList name
      if (Shell.Pattern.kinds.lookup name).isSome then
        (members fuel later).map (SetPart.kind name :: ·)
      else .error ("invalid character class " ++ inQuotes name)
    | none => (members fuel ((':', true) :: rest)).map (SetPart.chars ['['] :: ·)
  | fuel + 1, ('[', false) :: ('=', false) :: rest =>
    match named? '=' rest with
    | some ([c], later) => (members fuel later).map (SetPart.chars [c] :: ·)
    | _ => (members fuel (('=', true) :: rest)).map (SetPart.chars ['['] :: ·)
  | fuel + 1, ('[', false) :: (c, escaped) :: ('*', false) :: rest =>
    let digits := (rest.takeWhile fun d => d.1.isDigit).map Prod.fst
    match rest.drop digits.length with
    | (']', false) :: later =>
      let base := if digits.head? = some '0' then 8 else 10
      (members fuel later).map (SetPart.repeated c (Shell.numberOf base digits) :: ·)
    | _ =>
      (members fuel ((c, escaped) :: ('*', true) :: rest)).map (SetPart.chars ['['] :: ·)
  | fuel + 1, (first, _) :: ('-', false) :: (last, _) :: rest =>
    if last < first then
      .error ("range-endpoints of '" ++ String.ofList [first, '-', last] ++
        "' are in reverse collating sequence order")
    else (members fuel rest).map (SetPart.chars (rangeOf first last) :: ·)
  | fuel + 1, (c, _) :: rest => (members fuel rest).map (SetPart.chars [c] :: ·)

/-- All octets. -/
def everything : List Char := (List.range 256).map Char.ofNat

/-- The characters of members, where one that is repeated without a count fills up to a
length. -/
def expanded (length : Nat) (ms : List SetPart) : List Char :=
  let sizeOf (m : SetPart) : Nat :=
    match m with
    | .chars cs => cs.length
    | .kind name => (everything.filter (Shell.Pattern.isOfKind name)).length
    | .repeated _ n => n
  let fixed := total (ms.map sizeOf)
  ms.flatMap fun m =>
    match m with
    | .chars cs => cs
    | .kind name => everything.filter (Shell.Pattern.isOfKind name)
    | .repeated c n => List.replicate (if n = 0 then length - fixed else n) c

/-- The pairs of characters that are exchanged, the earlier ones counting less. -/
def pairs (source target : List Char) : List (Char × Char) :=
  let last := target.getLastD ' '
  source.zip (target ++ List.replicate (source.length - target.length) last)

/-- What becomes of each octet. -/
def table (source target : List Char) : Array UInt8 :=
  (pairs source target).foldl (fun t (a, b) => t.set! a.toNat (UInt8.ofNat b.toNat))
    (everything.map fun c => UInt8.ofNat c.toNat).toArray

/-- The members of a set as marks for all octets. -/
def marks (cs : List Char) : Array Bool :=
  cs.foldl (fun t c => t.set! c.toNat true) (Array.replicate 256 false)

end Exchange

open Exchange in
/-- Exchange, delete or squeeze the octets of the input. -/
def tr : Tool Unit := do
  let switches : List Switch :=
    [⟨"c", "complement", .never⟩, ⟨"C", "", .never⟩, ⟨"d", "delete", .never⟩,
      ⟨"s", "squeeze-repeats", .never⟩, ⟨"t", "truncate-set1", .never⟩]
  let a ← arguments switches false
  let deleting := a.has "d"
  let squeezing := a.has "s"
  let least := if deleting == squeezing then 2 else 1
  let most := if deleting && !squeezing then 1 else 2
  if a.operands.isEmpty then missingOperand
  if a.operands.length < least then
    misuse ("missing operand after " ++ inQuotes (a.operands.getLastD ""))
  if most < a.operands.length then extraOperand (a.operands[most]?.getD "")
  let setOf (s : String) : Tool (List SetPart) :=
    match members (s.length + 1) (charsOf (s.length + 1) s.toList) with
    | .ok ms => return ms
    | .error problem => refuse problem
  let first ← setOf (a.operands.headD "")
  let second ← setOf (a.operands[1]?.getD "")
  let plain := expanded 0 first
  let source := if a.has "c" || a.has "C" then everything.filter (!plain.contains ·) else plain
  let translating := !deleting && 1 < a.operands.length
  let target := expanded source.length second
  if translating && target.isEmpty then
    refuse "when not truncating set1, string2 must be non-empty"
  let bySwap : Option (Char → Char) :=
    match first, second with
    | [.kind "upper"], [.kind "lower"] => some Char.toLower
    | [.kind "lower"], [.kind "upper"] => some Char.toUpper
    | _, _ => none
  let source := if a.has "t" then source.take target.length else source
  let target := match bySwap with
    | some f => source.map f
    | none => target
  let exchange := if translating then table source target else table [] []
  let dropped := if deleting then marks source else marks []
  let squeezed :=
    if !squeezing then marks []
    else if 1 < a.operands.length then marks target else marks source
  let step (last : Option UInt8) (data : ByteArray) : Tool (Option UInt8 × Bool) := do
    let (out, last) := data.foldl
      (fun ((out, last) : ByteArray × Option UInt8) b =>
        if dropped.getD b.toNat false then (out, last)
        else
          let c := exchange.getD b.toNat b
          if squeezed.getD c.toNat false && last = some c then (out, last)
          else (out.push c, some c))
      (ByteArray.empty, last)
    emitOctets out
    return (last, true)
  let (_, result) ← eachBlock 0 step Program.repetitions none
  tellReading "-" result

end ReleaseBuilder.Machine.Utility
