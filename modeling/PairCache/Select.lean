import PairCache.Algorithm
import PairCache.Time.Timing

/-!
The selecting algorithm: its output is derived from the first input when the bundle's flag is set and
from the second otherwise. Both inputs have to have a form. While it runs it reports lines.
-/
namespace PairCache

namespace Select

def name : String := "select"

def seconds (x : Double) : String :=
  String.ofList ((if x.negative then ['-'] else []) ++ fixed 6 x.units Double.unit)

def choose (flag : Bool) (first second : String) : Derived :=
  if flag then ⟨.first, first⟩ else ⟨.second, second⟩

def report (first second : String) (bundle : Bundle) (elapsed : Duration) : List String :=
  ["selection started", "first input: " ++ first, "second input: " ++ second,
    "parameters: " ++ bundle.render,
    "output: " ++ (choose bundle.flag first second).render,
    "elapsed: " ++ seconds elapsed.inSeconds ++ " s"]

def run (elapsed : Duration) (first second : Input) (bundle : Bundle) : Run :=
  match Bundle.formIn .first first with
  | .error e => ⟨["selection started"], .failed e⟩
  | .ok a =>
    match Bundle.formIn .second second with
    | .error e => ⟨["selection started", "first input: " ++ a], .failed e⟩
    | .ok b => ⟨report a b bundle elapsed, .done (choose bundle.flag a b)⟩

theorem run_congr_flag {elapsed : Duration} {first second : Input} {p q : Bundle}
    (h : p.flag = q.flag) :
    (run elapsed first second p).outcome = (run elapsed first second q).outcome := by
  unfold run
  split
  · rfl
  · split
    · rfl
    · simp [h]

def algorithm (elapsed : Duration) : Algorithm := ⟨name, run elapsed⟩

theorem algorithm_respectsSame (elapsed : Duration) : (algorithm elapsed).RespectsSame := by
  intro first second p q h
  have hflag : p.flag = q.flag := by
    simp only [Bundle.same, Bool.and_eq_true, beq_iff_eq] at h
    exact h.1.1.2
  exact run_congr_flag hflag

end Select

end PairCache
