/-!
# Durations

Durations are counted in milliseconds. They are written in seconds from one second on, without
trailing zeros.
-/

namespace PolicyLint.Duration

/-- The digits behind the point for a count of thousandths, without trailing zeros. -/
def fraction (thousandths : Nat) : List Char :=
  ([thousandths / 100, thousandths / 10 % 10, thousandths % 10].reverse.dropWhile
    (· = 0)).reverse.map Nat.digitChar

def text (ms : Nat) : String :=
  if ms = 0 then "0ns"
  else if ms < 1000 then toString ms ++ "ms"
  else
    let digits := fraction (ms % 1000)
    toString (ms / 1000) ++ (if digits.isEmpty then "" else "." ++ String.ofList digits) ++ "s"

end PolicyLint.Duration
