/-
# TransferLedger.Chain.HostName -- names of hosts

The name of a host is a row of labels with dots between them. It may hold characters of any script.
Folding gives it one spelling, and each label outside ASCII is written in ASCII behind a mark. A
label that already starts with the mark has to be what such a label is written as.
-/

import TransferLedger.Text.Direction
import TransferLedger.Text.Folding
import TransferLedger.Text.Punycode

namespace TransferLedger.HostName

open TransferLedger.Text

/-- What a name must not hold: controls, the blank, and signs with a meaning in addresses. -/
def isForbidden (c : Char) : Bool :=
  c.toNat ≤ 0x20 || c.toNat = 0x7F ||
    ['#', '%', '/', ':', '<', '>', '?', '@', '[', '\\', ']', '^', '|'].contains c

/-- What a label in ASCII that stands for others starts with. -/
def mark : List Char := "xn--".toList

/-- The greatest length of a label outside ASCII. -/
def longestLabel : Nat := 1000

/-- The greatest length of what follows the mark. -/
def longestWritten : Nat := 2000

/-- Whether a label does not start in the middle of a letter, has its joiners where they may stand,
and can be written in ASCII. -/
def isSound (label : List Char) : Bool :=
  !label.head?.any isMark && joinersStand [] label &&
    (label.all Punycode.isBasic || label.length ≤ longestLabel)

/-- Whether a label is one of characters that folding and dots leave as they are. -/
def isPlain (label : List Char) : Bool :=
  label.all isFoldable && fold label == label && !label.any fun c => isForbidden c || c = '.'

/-- The label that a folded one stands for. -/
def read? (label : List Char) : Option (List Char) :=
  match stripPrefix? mark label with
  | none => if isSound label then some label else none
  | some written =>
    if written.isEmpty || written.getLast? = some '-' || longestWritten < written.length then none
    else (Punycode.decode? written).filter fun l => isPlain l && isSound l

/-- A label in ASCII. -/
def write (label : List Char) : List Char :=
  if label.all Punycode.isBasic then label else mark ++ Punycode.encode label

/-- **The labels of a name in ASCII,** if it is one. -/
def labels? (name : List Char) : Option (List (List Char)) := do
  let folded := fold name
  if !name.all isFoldable || folded.any isForbidden then none
  let labels := splitAt '.' folded
  let meant ← labels.mapM read?
  if Direction.agree meant then some (labels.map write) else none

end TransferLedger.HostName
