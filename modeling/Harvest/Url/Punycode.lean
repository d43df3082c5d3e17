import Harvest.Text.CodeSet

/-!
Punycode: code points written with letters, digits and hyphens.

The ASCII characters come first, up to the last hyphen; behind it stand numbers of variable length
that say where the other code points are put, in increasing order of the code points.
-/

namespace Harvest.Url.Punycode

/-- The least value of the digit that goes on with a number, less one: digits below end it. -/
def threshold (k bias : Nat) : Nat := max 1 (min 26 (k - bias))

theorem one_le_threshold (k bias : Nat) : 1 ≤ threshold k bias := Nat.le_max_left ..

/-- The bias for the next number: how many steps bring a difference down, and a rest. -/
def biasSteps (delta k : Nat) : Nat :=
  if 455 < delta then biasSteps (delta / 35) (k + 36) else k + 36 * delta / (delta + 38)
  termination_by delta

def adapt (delta points : Nat) (first : Bool) : Nat :=
  let delta := if first then delta / 700 else delta / 2
  biasSteps (delta + delta / points) 0

/-- The value of a digit: letters without regard to case, then the decimal digits. -/
def digit? (c : Char) : Option Nat :=
  let n := c.toNat
  if 97 ≤ n ∧ n ≤ 122 then some (n - 97)
  else if 65 ≤ n ∧ n ≤ 90 then some (n - 65)
  else if 48 ≤ n ∧ n ≤ 57 then some (n - 48 + 26)
  else none

def digitChar (n : Nat) : Char := if n < 26 then Char.ofNat (97 + n) else Char.ofNat (n - 26 + 48)

def digits (k bias q : Nat) : List Char :=
  let t := threshold k bias
  if q < t then [digitChar q]
  else digitChar (t + (q - t) % (36 - t)) :: digits (k + 36) bias ((q - t) / (36 - t))
  termination_by q
  decreasing_by
    have h : 1 ≤ t := one_le_threshold k bias
    exact Nat.lt_of_le_of_lt (Nat.div_le_self ..) (by omega)

/-- The state of writing: the difference so far, the bias, how many code points are written, and the
digits. -/
structure Writing where
  delta : Nat
  bias : Nat
  written : Nat
  out : List Char

/-- Passes over one code point of the text while the occurrences of `m` are written. -/
def Writing.pass (basic m : Nat) (w : Writing) (n : Nat) : Writing :=
  if n < m then { w with delta := w.delta + 1 }
  else if n = m then
    { delta := 0
      bias := adapt w.delta (w.written + 1) (w.written == basic)
      written := w.written + 1
      out := w.out ++ digits 36 w.bias w.delta }
  else w

def encode (ns : List Nat) : List Char :=
  let basic := ns.filter (· < 128)
  let foreign := ((ns.filter (128 ≤ ·)).mergeSort).eraseReps
  let start : Writing := ⟨0, 72, basic.length, []⟩
  let step (acc : Writing × Nat) (m : Nat) : Writing × Nat :=
    let (w, n) := acc
    let w := { w with delta := w.delta + (m - n) * (w.written + 1) }
    let w := ns.foldl (Writing.pass basic.length m) w
    ({ w with delta := w.delta + 1 }, m + 1)
  let (w, _) := foreign.foldl step (start, 128)
  basic.map Char.ofNat ++ (if basic.isEmpty then [] else ['-']) ++ w.out

/-- Reads the numbers: the code points so far, the code point and place reached, the place before
the number being read, the weight of its next digit and that digit's number, and the bias. -/
def readNumbers (out : List Nat) (n i before weight k bias : Nat) : List Char → Option (List Nat)
  | [] => if k = 36 then some out else none
  | c :: cs => do
    let d ← digit? c
    let i := i + d * weight
    if 0x100000000 ≤ i then none
    let t := threshold k bias
    if d < t then
      let size := out.length + 1
      let n := n + i / size
      if !n.isValidChar then none
      let place := i % size
      readNumbers (out.take place ++ n :: out.drop place) n (place + 1) (place + 1) 1 36
        (adapt (i - before) size (before == 0)) cs
    else
      if 0x100000000 ≤ weight * (36 - t) then none
      readNumbers out n i before (weight * (36 - t)) (k + 36) bias cs

def decode? (cs : List Char) : Option (List Nat) :=
  let after := (cs.reverse.takeWhile (· != '-')).reverse
  let basic := cs.take (cs.length - after.length - 1)
  let rest := if basic.isEmpty then cs else after
  if basic.all (fun c => c.toNat < 128) then
    readNumbers (basic.map Char.toNat) 128 0 0 1 36 72 rest
  else none

end Harvest.Url.Punycode
