/-!
# Similarity of names

The Jaro similarity of two texts, over their characters.  A character of the
first text agrees with an unused equal character of the second that lies within
a window around its own place (half the longer length, less one); the agreeing
characters of both texts, each in its own order, differ in some places, and half
that count is the number of transpositions.  With `m` agreements, `t`
transpositions and lengths `a` and `b`, the similarity is the mean of `m / a`,
`m / b` and `(m - t) / m`; it is one for two empty texts and zero when nothing
agrees.

The similarity is computed in double precision, one operation after another,
and only then compared with seven tenths: for three agreements between texts of
five and six characters the exact mean is seven tenths, and the computed one lies
just above it, which makes the names close.  A name is suggested for a mistyped
one when its similarity exceeds seven tenths; of several, the most similar wins,
and of equally similar ones the last.
-/

namespace ShapeSearch
namespace Similarity

/-- Seven tenths, the nearest double to it. -/
def threshold : Float :=
  Float.ofNat 7 / Float.ofNat 10

/-- Mark the characters of the first text that agree with one of the second, and
the characters of the second they agree with. -/
def agreements (a b : List Char) : List Bool × List Bool :=
  let window := max a.length b.length / 2 - 1
  let step (acc : List Bool × List Bool) (ci : Char × Nat) : List Bool × List Bool :=
    let (fa, fb) := acc
    let (c, i) := ci
    let lo := i - window
    let hi := min b.length (i + window + 1)
    match (List.range hi).find? (fun j => lo ≤ j && b[j]? == some c && fb[j]? == some false) with
    | some j => (fa ++ [true], fb.set j true)
    | none => (fa ++ [false], fb)
  a.zipIdx.foldl step ([], b.map fun _ => false)

/-- The characters a list of marks selects. -/
def marked (cs : List Char) (marks : List Bool) : List Char :=
  (cs.zip marks).filterMap fun (c, m) => if m then some c else none

/-- The Jaro similarity of two texts. -/
def jaro (x y : String) : Float :=
  let a := x.toList
  let b := y.toList
  if a.isEmpty && b.isEmpty then 1
  else if a.isEmpty || b.isEmpty then 0
  else
    let (fa, fb) := agreements a b
    let ma := marked a fa
    let mb := marked b fb
    let m := ma.length
    let t := ((ma.zip mb).countP fun (p, q) => p != q) / 2
    if m == 0 then 0
    else
      let fm := Float.ofNat m
      (fm / Float.ofNat a.length + fm / Float.ofNat b.length + Float.ofNat (m - t) / fm) /
        Float.ofNat 3

/-- The candidate most similar to a text, among those whose similarity exceeds seven
tenths; the last of equally similar ones. -/
def suggest (text : String) (candidates : List String) : Option String :=
  let close := candidates.filterMap fun c =>
    let s := jaro text c
    if s > threshold then some (c, s) else none
  let best := close.foldl (fun best (c, s) =>
    match best with
    | some (b, bs) => if bs ≤ s then some (c, s) else some (b, bs)
    | none => some (c, s)) none
  best.map (·.1)

end Similarity
end ShapeSearch
