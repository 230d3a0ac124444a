import ContainerCert.Host.FoldingTable
import ContainerCert.Text.Composition
import ContainerCert.Text.Invisible
import ContainerCert.Text.Mark

/-!
# The one way of writing a host's name

A name is brought into the form in which names for the same host are the same: letters in lower
case and of the usual width, variants replaced by what they are variants of, what does not show
left out, and the text composed. Some characters cannot stand in a name at all.
-/

namespace ContainerCert.Host

open Text (inRanges isInvisible isMark)

/-- What the ranges of a table replace a number by, where only some of each range count. -/
def moveOf? (table : List ((Nat × Nat) × Nat)) (counts : Nat → Bool) (n : Nat) : Option Nat :=
  table.findSome? fun ((first, last), target) =>
    if first ≤ n ∧ n ≤ last ∧ counts (n - first) then some (target + (n - first)) else none

/-- What the rows of a table replace a number by. -/
def replacementOf? (table : List (Nat × List (List Nat))) (n : Nat) : Option (List Nat) :=
  table.findSome? fun (first, targets) => if first ≤ n then targets[n - first]? else none

/-- What a character beyond ASCII is replaced by, if it is. -/
def replacement? (n : Nat) : Option (List Nat) :=
  if inRanges omitted n then some []
  else match moveOf? moved (fun _ => true) n <|> moveOf? alternating (· % 2 == 0) n with
    | some target => some [target]
    | none =>
      if n < 0x3000 then replacementOf? replacedBelow3000 n
      else if n < 0xF900 then replacementOf? replacedBelowF900 n
      else if n < 0xFB00 then replacementOf? replacedBelowFB00 n
      else if n < 0x2F800 then replacementOf? replacedBelow2F800 n
      else replacementOf? replacedAbove n

/-- The two characters that say whether the letters beside them are joined. -/
def isJoiner (c : Char) : Bool :=
  c.toNat == 0x200C || c.toNat == 0x200D

/-- Whether a character beyond ASCII stands in names as it is, unless it is replaced. -/
def standsItself (c : Char) : Bool :=
  isJoiner c || (!inRanges refused c.toNat && (!isInvisible c || isMark c))

/-- What stands in a name for a character; none when it cannot stand there. -/
def folded? (c : Char) : Option (List Char) :=
  if c.toNat < 0x80 then some [c.toLower]
  else match replacement? c.toNat with
    | some targets => some (targets.map Char.ofNat)
    | none => if standsItself c then some [c] else none

/-- Whether a name that has been folded may hold a character. -/
def isFolded (c : Char) : Bool :=
  folded? c == some [c]

/-- The form of a name in which names for the same host are the same. -/
def fold? (name : List Char) : Option (List Char) :=
  if name.all fun c => c.toNat < 0x80 then some (name.map Char.toLower)
  else do
    let parts ← name.mapM folded?
    return Text.compose parts.flatten

end ContainerCert.Host
