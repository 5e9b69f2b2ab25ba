import ImageFlow.Run.Attempt

/-!
# The loop of a run, counted in a machine word

The attempts of a run as one pass of a loop after another.  The loop counts the attempts that it
has begun in 32 bits and compares the count with the limit at the end of a pass; nothing else
bounds it.  A count that does not fit has a state of its own, which no pass leaves.
-/

namespace ImageFlow

inductive LoopState (η ω : Type) where
  /-- Before a pass, with so many attempts begun. -/
  | going (begun : UInt32) (p : Progress η ω)
  | ended (result : Except RunError (OrderedMap String)) (p : Progress η ω)
  | overflowed

variable {η ω : Type}

/-- What follows the attempt of this number under a limit. -/
def LoopState.ofEnd (site : Site ω) (names : List String) (limit number : UInt32) :
    AttemptEnd × Progress η ω → LoopState η ω
  | (.stopped error, p) => .ended (.error error) p
  | (.settled job error, p) =>
    let (result, p) := settle names job error p
    .ended result p
  | (.repeated requested error, p) =>
    if limit ≤ number then
      let (result, p) := giveUp number.toNat requested error p
      .ended result p
    else .going number (goOn site number.toNat requested p)

def LoopState.pass (site : Site ω) (kind : HookKind η) (vars : Variables) (names : List String)
    (limit : UInt32) : LoopState η ω → LoopState η ω
  | .going begun p =>
    if begun.toNat + 1 < UInt32.size then
      .ofEnd site names limit (begun + 1) (attempt site kind vars (begun + 1).toNat p)
    else .overflowed
  | state => state

end ImageFlow
