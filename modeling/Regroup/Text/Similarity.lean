/-!
# Similar words

Two words are similar when they share many characters at about the same places. Characters match
when they are equal and no further apart than half the longer word; matched characters out of order
count for half. The similarity of words with `a` and `b` characters, `m` matches and `t`
transpositions is the mean of `m / a`, `m / b` and `(m - t) / m`, here kept as an exact fraction.
-/

namespace Regroup.Text

/-- Matches the characters of a word, from place `i` on, with characters of another that are not yet
taken. Gives the matched characters in order and which places of the other word are taken. -/
def matchCharacters (range : Nat) (other : List Char) :
    Nat → List Char → List Nat → List Char × List Nat
  | _, [], taken => ([], taken)
  | i, c :: cs, taken =>
    let place? := (List.range other.length).find? fun j ↦
      i ≤ j + range && j ≤ i + range && other[j]? == some c && !taken.contains j
    match place? with
    | none => matchCharacters range other (i + 1) cs taken
    | some j =>
      let (matched, taken) := matchCharacters range other (i + 1) cs (j :: taken)
      (c :: matched, taken)

/-- The similarity as numerator and denominator. -/
def similarity (a b : List Char) : Nat × Nat :=
  if a.isEmpty && b.isEmpty then (1, 1)
  else
    let range := max a.length b.length / 2 - 1
    let (matchedA, taken) := matchCharacters range b 0 a []
    let places := (List.range b.length).filter taken.contains
    let matchedB := places.filterMap fun j ↦ b[j]?
    let m := matchedA.length
    let differing := (matchedA.zip matchedB).countP fun (x, y) ↦ x ≠ y
    let t := differing / 2
    if m = 0 then (0, 1)
    else
      (m * m * b.length + m * m * a.length + (m - t) * a.length * b.length,
        3 * m * a.length * b.length)

/-- Of the candidates whose name has a similarity of seven tenths or more, the most similar one, and
of equals the last. -/
def mostSimilar? {α : Type} (name : α → String) (word : String) (candidates : List α) : Option α :=
  let score (candidate : α) : Nat × Nat := similarity word.toList (name candidate).toList
  let good := candidates.filter fun candidate ↦
    7 * (score candidate).2 ≤ 10 * (score candidate).1
  good.foldl
    (fun best? candidate ↦
      match best? with
      | none => some candidate
      | some best =>
        let (n, d) := score best
        let (n', d') := score candidate
        if n * d' ≤ n' * d then some candidate else best?)
    none

end Regroup.Text
