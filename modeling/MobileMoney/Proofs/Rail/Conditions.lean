import MobileMoney.Proofs.Except

/-!
# Conditions

A check of a request is decided by conditions, each about one field: it gives a result exactly if all
of them hold, and otherwise an error that names the field of the first one that fails.  Checks in a
row are decided by the conditions of all of them in the same order.
-/

namespace MobileMoney

/-- A condition on a request, and the field that it is about. -/
structure Condition where
  field : String
  holds : Prop

/-- The first condition that fails is about this field. -/
def FirstFails (conditions : List Condition) (field : String) : Prop :=
  ∃ before failed after, conditions = before ++ failed :: after ∧
    (∀ condition ∈ before, condition.holds) ∧ ¬ failed.holds ∧ failed.field = field

/-- A result that is there exactly if all conditions hold, and else names the field of the first
that fails. -/
structure IsDecidedBy {α : Type} (provider : Provider) (conditions : List Condition)
    (sound : α → Prop) (result : Except PaymentError α) : Prop where
  accepts : (∃ value, result = .ok value) ↔ ∀ condition ∈ conditions, condition.holds
  sound : ∀ value, result = .ok value → sound value
  reports : ∀ error, result = .error error → ∃ message field,
    error = .validation provider message (some field) ∧ FirstFails conditions field

section

variable {α β : Type} {provider : Provider} {conditions more : List Condition} {sound : α → Prop}
  {sound' : β → Prop} {field : String}

theorem FirstFails.append_left (h : FirstFails conditions field) :
    FirstFails (conditions ++ more) field := by
  obtain ⟨before, failed, after, rfl, hbefore, hfailed, hfield⟩ := h
  exact ⟨before, failed, after ++ more, by simp, hbefore, hfailed, hfield⟩

theorem FirstFails.append_right (h : FirstFails more field)
    (hholds : ∀ condition ∈ conditions, condition.holds) :
    FirstFails (conditions ++ more) field := by
  obtain ⟨before, failed, after, rfl, hbefore, hfailed, hfield⟩ := h
  exact ⟨conditions ++ before, failed, after, by simp,
    List.forall_mem_append.mpr ⟨hholds, hbefore⟩, hfailed, hfield⟩

theorem isDecidedBy_pure {value : α} (h : sound value) :
    IsDecidedBy provider [] sound (pure value) where
  accepts := iff_of_true ⟨value, rfl⟩ (List.forall_mem_nil _)
  sound _ hvalue := pure_eq_ok.mp hvalue ▸ h
  reports _ herror := absurd herror pure_ne_error

/-- One check. -/
theorem isDecidedBy_check {holds : Prop} {result : Except PaymentError α}
    (hok : holds → ∃ value, result = .ok value ∧ sound value)
    (hrefused : ¬ holds → ∃ message, result = .error (.invalid provider message field)) :
    IsDecidedBy provider [⟨field, holds⟩] sound result := by
  by_cases hholds : holds
  · obtain ⟨value, rfl, hvalue⟩ := hok hholds
    refine ⟨iff_of_true ⟨value, rfl⟩ (List.forall_mem_singleton.mpr hholds), ?_, ?_⟩
    · rintro _ ⟨⟩
      exact hvalue
    · rintro _ ⟨⟩
  · obtain ⟨message, rfl⟩ := hrefused hholds
    refine ⟨iff_of_false ?_ fun hall ↦ hholds (hall _ (List.mem_singleton_self _)), ?_, ?_⟩
    · rintro ⟨_, ⟨⟩⟩
    · rintro _ ⟨⟩
    · rintro _ ⟨⟩
      exact ⟨message, field, rfl, [], _, [], rfl, List.forall_mem_nil _, hholds, rfl⟩

/-- The conditions of a sequence are those of its steps in their order. -/
theorem IsDecidedBy.bind {step : Except PaymentError α} {next : α → Except PaymentError β}
    (hstep : IsDecidedBy provider conditions sound step)
    (hnext : ∀ value, sound value → IsDecidedBy provider more sound' (next value)) :
    IsDecidedBy provider (conditions ++ more) sound' (step >>= next) := by
  refine ⟨⟨fun hdone ↦ ?_, fun hholds ↦ ?_⟩, fun result hresult ↦ ?_, fun error herror ↦ ?_⟩
  · obtain ⟨result, hresult⟩ := hdone
    obtain ⟨value, hvalue, hresult⟩ := bind_eq_ok.mp hresult
    exact List.forall_mem_append.mpr ⟨hstep.accepts.mp ⟨value, hvalue⟩,
      (hnext value (hstep.sound value hvalue)).accepts.mp ⟨result, hresult⟩⟩
  · obtain ⟨hconditions, hmore⟩ := List.forall_mem_append.mp hholds
    obtain ⟨value, hvalue⟩ := hstep.accepts.mpr hconditions
    obtain ⟨result, hresult⟩ := (hnext value (hstep.sound value hvalue)).accepts.mpr hmore
    exact ⟨result, bind_eq_ok.mpr ⟨value, hvalue, hresult⟩⟩
  · obtain ⟨value, hvalue, hresult⟩ := bind_eq_ok.mp hresult
    exact (hnext value (hstep.sound value hvalue)).sound result hresult
  · obtain herror | ⟨value, hvalue, herror⟩ := bind_eq_error.mp herror
    · obtain ⟨message, field, rfl, hfails⟩ := hstep.reports error herror
      exact ⟨message, field, rfl, hfails.append_left⟩
    · obtain ⟨message, field, rfl, hfails⟩ :=
        (hnext value (hstep.sound value hvalue)).reports error herror
      exact ⟨message, field, rfl, hfails.append_right (hstep.accepts.mp ⟨value, hvalue⟩)⟩

end

end MobileMoney
