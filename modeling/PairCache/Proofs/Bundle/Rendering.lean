import PairCache.Proofs.Base
import PairCache.Proofs.Bundle.Flag
import PairCache.Proofs.Runner.Execution
import PairCache.Proofs.Select

/-!
What the display form of a bundle tells (`render_tells`): its label, count and flag, whatever characters
the label has, since the form can be read from its right end. Reports and diagnostics show bundles in this
form, so bundles that they show alike have all but their base parameters in common.
-/
namespace PairCache

namespace Bundle

variable {p q : Bundle}

theorem append_cons_inj {c : Char} {a b x y : List Char} (hx : c ∉ x) (hy : c ∉ y)
    (h : a ++ c :: x = b ++ c :: y) : a = b ∧ x = y := by
  have hreverse : x.reverse ++ c :: a.reverse = y.reverse ++ c :: b.reverse := by
    simpa using congrArg List.reverse h
  have hparts := congrArg (parts c) hreverse
  rw [parts_append (mt List.mem_reverse.mp hx), parts_append (mt List.mem_reverse.mp hy)] at hparts
  obtain ⟨hends, hfronts⟩ := Prod.mk.inj hparts
  exact ⟨List.reverse_inj.mp hfronts, List.reverse_inj.mp hends⟩

def front (b : Bundle) : List Char :=
  '(' :: b.label.toList ++ ',' :: Decimal.ofInt b.count.toInt

theorem toList_render (b : Bundle) :
    b.render.toList = b.front ++ ',' :: ((Input.boolForm b.flag).toList ++ [')']) := by
  simp [render, front, Decimal.intText, String.toList_append]

theorem comma_notMem_boolForm (flag : Bool) : ',' ∉ (Input.boolForm flag).toList ++ [')'] := by
  cases flag <;> decide

theorem comma_notMem_ofInt (i : Int) : ',' ∉ Decimal.ofInt i := by
  intro hmem
  rcases Json.mem_ofInt hmem with h | h <;> exact absurd h (by decide)

theorem render_eq_iff :
    p.render = q.render ↔ p.label = q.label ∧ p.count = q.count ∧ p.flag = q.flag := by
  constructor
  · intro h
    have hlists := congrArg String.toList h
    rw [toList_render, toList_render] at hlists
    obtain ⟨hfronts, hflags⟩ := append_cons_inj (comma_notMem_boolForm _) (comma_notMem_boolForm _) hlists
    obtain ⟨hlabels, hcounts⟩ := append_cons_inj (comma_notMem_ofInt _) (comma_notMem_ofInt _) hfronts
    refine ⟨String.toList_inj.mp (List.cons.inj hlabels).2, ?_, ?_⟩
    · exact Int64.toInt_inj.mp (Json.ofInt_injective hcounts)
    · exact Input.boolForm_injective (String.toList_inj.mp (List.append_cancel_right hflags))
  · rintro ⟨hlabel, hcount, hflag⟩
    rw [render, render, hlabel, hcount, hflag]

theorem eq_withBase_of_render (h : p.render = q.render) : q = p.withBase q.base := by
  obtain ⟨hlabel, hcount, hflag⟩ := render_eq_iff.mp h
  rw [withBase, hlabel, hcount, hflag]

end Bundle

namespace Runner

theorem exists_of_map_eq_ok {ε α β : Type} {f : α → β} {e : Except ε α} {b : β}
    (h : e.map f = .ok b) : ∃ a, e = .ok a ∧ f a = b := by
  cases e with
  | error fault => cases h
  | ok a => exact ⟨a, rfl, Except.ok.inj h⟩

variable {watch : Stopwatch} {r t : Runner} {first second : Object Input} {s : RequestSettings}
  {report : Report}

theorem parameters_of_request {index : Nat} {desired : Bundle} {o : RequestOutcome}
    (h : r.request watch first second index desired = (.ok o, t)) : o.parameters = desired.render := by
  simp only [request] at h
  split at h
  · obtain rfl := Except.ok.inj (Prod.mk.inj h).1
    rfl
  · cases (Prod.mk.inj h).1

theorem parameters_of_requests {index : Nat} {bundles : List Bundle} {outcomes : List RequestOutcome}
    (h : r.requests watch first second index bundles = (.ok outcomes, t)) :
    outcomes.map (·.parameters) = bundles.map Bundle.render := by
  induction bundles generalizing r index outcomes with
  | nil =>
    obtain rfl := Except.ok.inj (Prod.mk.inj h).1
    rfl
  | cons desired others ih =>
    rw [requests] at h
    split at h
    · cases (Prod.mk.inj h).1
    · rename_i o u ho
      obtain ⟨hmap, hlast⟩ := Prod.mk.inj h
      obtain ⟨rest, hrest, rfl⟩ := exists_of_map_eq_ok hmap
      rw [List.map_cons, List.map_cons, parameters_of_request ho, ih (Prod.ext hrest hlast)]

theorem parameters_of_execute (h : r.execute watch s = (.ok report, t)) :
    report.requests.map (·.parameters) = (s.bundles report.derived).map Bundle.render := by
  simp only [execute, freshInputs] at h
  split at h
  · cases (Prod.mk.inj h).1
  · obtain ⟨outcomes, houtcomes, rfl⟩ := exists_of_map_eq_ok (Prod.mk.inj h).1
    exact parameters_of_requests (Prod.ext houtcomes rfl)

theorem exists_bundle {i : Nat} {o : RequestOutcome} (h : r.execute watch s = (.ok report, t))
    (ho : report.requests[i]? = some o) :
    ∃ p, (s.bundles report.derived)[i]? = some p ∧ p.render = o.parameters := by
  have hshown := congrArg (·[i]?) (parameters_of_execute h)
  simp only [List.getElem?_map, ho, Option.map_some] at hshown
  exact Option.map_eq_some_iff.mp hshown.symm

end Runner

namespace Select

variable {elapsed : Duration} {first second : Input} {p : Bundle} {text : String}

theorem toList_of_line {front rest : String} (h : "parameters: " ++ text = front ++ rest) :
    "parameters: ".toList ++ text.toList = front.toList ++ rest.toList := by
  rw [← String.toList_append, h, String.toList_append]

theorem eq_render_of_report {a b : String} (h : "parameters: " ++ text ∈ report a b p elapsed) :
    text = p.render := by
  simp only [report, List.mem_cons, List.not_mem_nil, or_false] at h
  -- the first character tells the lines apart
  rcases h with h | h | h | h | h | h
  · rw [← String.append_empty (s := "selection started")] at h
    cases toList_of_line h
  · cases toList_of_line h
  · cases toList_of_line h
  · exact String.toList_inj.mp (List.append_cancel_left (toList_of_line h))
  · cases toList_of_line h
  · rw [String.append_assoc] at h
    cases toList_of_line h

/-- A run that fails breaks off before the parameters. -/
theorem eq_render_of_run (h : "parameters: " ++ text ∈ (run elapsed first second p).lines) :
    text = p.render := by
  rcases Bundle.form_cases first second with ⟨reason, hf⟩ | ⟨a, reason, ha, hb⟩ | ⟨a, b, ha, hb⟩
  · rw [run_of_first_formless hf] at h
    have hreport : "parameters: " ++ text ∈ report "" "" p elapsed := List.mem_of_mem_take (i := 1) h
    exact eq_render_of_report hreport
  · rw [run_of_second_formless ha hb] at h
    have hreport : "parameters: " ++ text ∈ report a "" p elapsed := List.mem_of_mem_take (i := 2) h
    exact eq_render_of_report hreport
  · rw [run_of_forms ha hb] at h
    exact eq_render_of_report h

end Select

namespace Bundle

theorem render_tells :
    (∀ p q : Bundle,
      p.render = q.render ↔ p.label = q.label ∧ p.count = q.count ∧ p.flag = q.flag) ∧
    (∀ (watch watch' : Stopwatch) (r r' t t' : Runner) (s s' : RequestSettings)
      (report report' : Report),
      r.execute watch s = (.ok report, t) → r'.execute watch' s' = (.ok report', t') →
      ∀ (i j : Nat) (o o' : RequestOutcome), report.requests[i]? = some o →
        report'.requests[j]? = some o' → o.parameters = o'.parameters →
        ∃ p q, (s.bundles report.derived)[i]? = some p ∧
          (s'.bundles report'.derived)[j]? = some q ∧ q = p.withBase q.base) ∧
    ∀ (elapsed elapsed' : Duration) (first second first' second' : Input) (p q : Bundle)
      (text : String), "parameters: " ++ text ∈ (Select.run elapsed first second p).lines →
        "parameters: " ++ text ∈ (Select.run elapsed' first' second' q).lines →
        q = p.withBase q.base := by
  refine ⟨fun p q => render_eq_iff, ?_, ?_⟩
  · intro watch watch' r r' t t' s s' report report' h h' i j o o' ho ho' hparameters
    obtain ⟨p, hp, hshown⟩ := Runner.exists_bundle h ho
    obtain ⟨q, hq, hshown'⟩ := Runner.exists_bundle h' ho'
    refine ⟨p, q, hp, hq, eq_withBase_of_render ?_⟩
    rw [hshown, hshown', hparameters]
  · intro elapsed elapsed' first second first' second' p q text h h'
    refine eq_withBase_of_render ?_
    rw [← Select.eq_render_of_run h, ← Select.eq_render_of_run h']

/-- A bundle with a label that goes on like a display form. -/
def imitating (n : Int64) : Bundle where
  label := "a,1,true),(b"
  base := .collect [("k", .ofInt64 n)]

def imitation (n : Int64) : RequestSettings where
  first := "x"
  second := "y"
  flag := some false
  count := some 0
  label := some "a,1,true),(b"
  base := [("k", .ofInt64 n)]
  times := 1

theorem render_imitating (n : Int64) : (imitating n).render = "(a,1,true),(b,0,false)" := by
  have hzero : Decimal.intText 0 = "0" := by decide
  simp [render, imitating, hzero, Input.boolForm]

theorem exists_imitation (n : Int64) : ∃ (r t : Runner) (report : Report) (o : RequestOutcome),
    r.execute .zero (imitation n) = (.ok report, t) ∧ report.requests[0]? = some o ∧
      o.parameters = "(a,1,true),(b,0,false)" := by
  obtain ⟨r, _, hready⟩ := Runner.ready_of_ofConfig? CacheConfig.validate_default
  obtain ⟨derived, t, _, hdescribed, _⟩ := hready.execute .zero (imitation n)
  obtain ⟨report, hexecute⟩ : ∃ report, r.execute .zero (imitation n) = (.ok report, t) :=
    ⟨_, hdescribed⟩
  have hshown : report.requests.map (·.parameters) = [(imitating n).render] :=
    Runner.parameters_of_execute hexecute
  obtain ⟨o, rest, ho, hparameters, -⟩ := List.map_eq_cons_iff.mp hshown
  exact ⟨r, t, report, o, hexecute, congrArg (·[0]?) ho, hparameters.trans (render_imitating n)⟩

theorem render_tells_imitating : ∃ (r r' t t' : Runner) (report report' : Report)
    (o o' : RequestOutcome) (p q : Bundle), r.execute .zero (imitation 1) = (.ok report, t) ∧
      r'.execute .zero (imitation 2) = (.ok report', t') ∧ report.requests[0]? = some o ∧
      report'.requests[0]? = some o' ∧ o.parameters = o'.parameters ∧
      ((imitation 1).bundles report.derived)[0]? = some p ∧
      ((imitation 2).bundles report'.derived)[0]? = some q ∧ q = p.withBase q.base ∧
      "parameters: " ++ o.parameters ∈
        (Select.run .zero (.plain "x") (.plain "y") (imitating 1)).lines ∧
      imitating 2 = (imitating 1).withBase (imitating 2).base ∧
      (imitating 1).base ≠ (imitating 2).base := by
  obtain ⟨r, t, report, o, h, ho, hparameters⟩ := exists_imitation 1
  obtain ⟨r', t', report', o', h', ho', hparameters'⟩ := exists_imitation 2
  have halike : o.parameters = o'.parameters := hparameters.trans hparameters'.symm
  have hlines : ∀ n, "parameters: " ++ o.parameters ∈
      (Select.run .zero (.plain "x") (.plain "y") (imitating n)).lines := by
    intro n
    rw [Select.run_of_forms rfl rfl, hparameters, ← render_imitating n]
    simp [Select.report]
  obtain ⟨p, q, hp, hq, hwith⟩ := render_tells.2.1 _ _ _ _ _ _ _ _ _ _ h h' 0 0 o o' ho ho' halike
  have hsame := render_tells.2.2 _ _ _ _ _ _ _ _ _ (hlines 1) (hlines 2)
  refine ⟨r, r', t, t', report, report', o, o', p, q, h, h', ho, ho', halike, hp, hq, hwith,
    hlines 1, hsame, fun hbase => ?_⟩
  have hvalues : Sorted.last? "k" [("k", Json.ofInt64 1)] = Sorted.last? "k" [("k", .ofInt64 2)] := by
    rw [← Base.get?_collect, ← Base.get?_collect]
    exact congrArg (·.get? "k") hbase
  cases hvalues

end Bundle

end PairCache
