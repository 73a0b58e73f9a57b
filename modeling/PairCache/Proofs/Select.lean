import PairCache.Proofs.Bundle.Derivation
import PairCache.Select

/-!
A run of the selecting algorithm, for all inputs and bundles (`run_law`). It fails as derivation does, for the
first input without a form, whichever of them the flag asks for; of the bundle nothing but the flag
matters to what comes out, and what is reported breaks off where an input has no form.
-/
namespace PairCache.Select

variable {elapsed : Duration} {first second : Input} {p : Bundle} {a b reason : String}

theorem run_of_first_formless (h : first.form = .error reason) (second : Input) (p : Bundle) :
    run elapsed first second p = ⟨["selection started"], .failed (.malformedInput .first reason)⟩ := by
  rw [run, Bundle.formIn_of_formless h]

theorem run_of_second_formless (ha : first.form = .ok a) (hb : second.form = .error reason)
    (p : Bundle) :
    run elapsed first second p =
      ⟨["selection started", "first input: " ++ a], .failed (.malformedInput .second reason)⟩ := by
  rw [run, Bundle.formIn_of_form ha, Bundle.formIn_of_formless hb]

theorem run_of_forms (ha : first.form = .ok a) (hb : second.form = .ok b) (p : Bundle) :
    run elapsed first second p = ⟨report a b p elapsed, .done (choose p.flag a b)⟩ := by
  rw [run, Bundle.formIn_of_form ha, Bundle.formIn_of_form hb]

theorem render_choose (flag : Bool) (a b : String) :
    (choose flag a b).render = "derived from " ++ (if flag then a else b) := by
  cases flag <;> rfl

theorem failed_iff (f : Failure) : (run elapsed first second p).outcome = .failed f ↔
    Bundle.derive first second = .error f := by
  rcases Bundle.form_cases first second with ⟨reason, h⟩ | ⟨a, reason, ha, hb⟩ | ⟨a, b, ha, hb⟩
  · rw [run_of_first_formless h, Bundle.derive_of_first_formless h]
    simp
  · rw [run_of_second_formless ha hb, Bundle.derive_of_second_formless ha hb]
    simp
  · rw [run_of_forms ha hb, Bundle.derive_of_forms ha hb]
    simp

theorem outcome_congr_flag {later : Duration} {q : Bundle} (h : p.flag = q.flag) :
    (run later first second q).outcome = (run elapsed first second p).outcome := by
  rcases Bundle.form_cases first second with ⟨reason, hf⟩ | ⟨a, reason, ha, hb⟩ | ⟨a, b, ha, hb⟩
  · rw [run_of_first_formless hf, run_of_first_formless hf]
  · rw [run_of_second_formless ha hb, run_of_second_formless ha hb]
  · rw [run_of_forms ha hb, run_of_forms ha hb, h]

theorem lines_congr_flag {later : Duration} {q : Bundle} (h : p.flag = q.flag) :
    (run later first second q).lines =
      ((run elapsed first second p).lines.set 3 ("parameters: " ++ q.render)).set 5
        ("elapsed: " ++ seconds later.inSeconds ++ " s") := by
  rcases Bundle.form_cases first second with ⟨reason, hf⟩ | ⟨a, reason, ha, hb⟩ | ⟨a, b, ha, hb⟩
  · rw [run_of_first_formless hf, run_of_first_formless hf]
    rfl
  · rw [run_of_second_formless ha hb, run_of_second_formless ha hb]
    rfl
  · rw [run_of_forms ha hb, run_of_forms ha hb, report, report, h]
    rfl

def TellsOutput (line : String) : Prop := "output:".toList <+: line.toList

theorem not_tellsOutput_started : ¬TellsOutput "selection started" := by
  rintro ⟨rest, h⟩
  cases h

theorem not_tellsOutput_first (a : String) : ¬TellsOutput ("first input: " ++ a) := by
  rintro ⟨rest, h⟩
  rw [String.toList_append] at h
  cases h

theorem not_tellsOutput_of_failed {f : Failure} (h : (run elapsed first second p).outcome = .failed f) :
    ∀ line ∈ (run elapsed first second p).lines, ¬TellsOutput line := by
  rcases Bundle.form_cases first second with ⟨reason, hf⟩ | ⟨a, reason, ha, hb⟩ | ⟨a, b, ha, hb⟩
  · rw [run_of_first_formless hf]
    exact List.forall_mem_singleton.mpr not_tellsOutput_started
  · rw [run_of_second_formless ha hb]
    exact List.forall_mem_cons.mpr ⟨not_tellsOutput_started,
      List.forall_mem_singleton.mpr (not_tellsOutput_first a)⟩
  · rw [run_of_forms ha hb] at h
    cases h

theorem run_law (elapsed : Duration) (first second : Input) (p : Bundle) :
    (∀ f, (run elapsed first second p).outcome = .failed f ↔ Bundle.derive first second = .error f) ∧
    (∀ reason, first.form = .error reason →
      run elapsed first second p = ⟨["selection started"], .failed (.malformedInput .first reason)⟩) ∧
    (∀ a reason, first.form = .ok a → second.form = .error reason →
      run elapsed first second p =
        ⟨["selection started", "first input: " ++ a], .failed (.malformedInput .second reason)⟩) ∧
    (∀ a b, first.form = .ok a → second.form = .ok b →
      run elapsed first second p =
        ⟨["selection started", "first input: " ++ a, "second input: " ++ b,
            "parameters: " ++ p.render, "output: " ++ ("derived from " ++ (if p.flag then a else b)),
            "elapsed: " ++ seconds elapsed.inSeconds ++ " s"],
          .done (if p.flag then ⟨.first, a⟩ else ⟨.second, b⟩)⟩) ∧
    (∀ f, (run elapsed first second p).outcome = .failed f →
      ∀ line ∈ (run elapsed first second p).lines, ¬TellsOutput line) ∧
    ∀ later q, p.flag = q.flag →
      (run later first second q).outcome = (run elapsed first second p).outcome ∧
      (run later first second q).lines =
        ((run elapsed first second p).lines.set 3 ("parameters: " ++ q.render)).set 5
          ("elapsed: " ++ seconds later.inSeconds ++ " s") := by
  refine ⟨failed_iff, fun reason h => run_of_first_formless h second p,
    fun a reason ha hb => run_of_second_formless ha hb p, fun a b ha hb => ?_,
    fun f => not_tellsOutput_of_failed, fun later q h => ⟨outcome_congr_flag h, lines_congr_flag h⟩⟩
  rw [run_of_forms ha hb, report, render_choose]
  rfl

/-- The flag asks for the first input, and it is the second that has no form. -/
theorem run_law_unselected :
    Bundle.derive (.plain "AA") (.formless "none") = .error (.malformedInput .second "none") ∧
    (run .zero (.plain "AA") (.formless "none") { flag := true }).lines =
      ["selection started", "first input: AA"] ∧
    (run .zero (.plain "AA") (.plain "B") { flag := true, count := -5, label := "x" }).outcome =
      (run .zero (.plain "AA") (.plain "B") { flag := true }).outcome := by
  obtain ⟨hfails, _, hsecond, _⟩ :=
    run_law .zero (.plain "AA") (.formless "none") { flag := true }
  obtain ⟨_, _, _, _, _, hflag⟩ := run_law .zero (.plain "AA") (.plain "B") { flag := true }
  have hrun := hsecond "AA" "none" rfl rfl
  refine ⟨(hfails _).mp (by rw [hrun]), by rw [hrun]; rfl, ?_⟩
  exact (hflag .zero { flag := true, count := -5, label := "x" } rfl).1

end PairCache.Select
