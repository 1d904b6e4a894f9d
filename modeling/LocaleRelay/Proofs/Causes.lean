import LocaleRelay.Proofs.ExitStatus

/-!
# What caused a failure

Behind the failure of a run stands the failure of a tool or of publishing, and behind that there may
be a fault of the operating system. The messages of the causes are those that one meets going from
cause to cause, and each message ends with that of the cause. So the message of a failed run alone
ends with that of the root.
-/

namespace LocaleRelay

open Files

/-! ### Texts that end with others -/

/-- A text ends with another one. -/
def Text.EndsWith (text ending : String) : Prop := ending.toList <:+ text.toList

namespace Text.EndsWith

/-- Whatever stands before a text, the whole ends with it. -/
theorem append (front ending : String) : EndsWith (front ++ ending) ending := by
  rw [EndsWith, String.toList_append]
  exact List.suffix_append _ _

/-- What ends a text ends every text that ends with that one. -/
theorem trans {text middle ending : String} (h : EndsWith text middle)
    (hm : EndsWith middle ending) : EndsWith text ending := List.IsSuffix.trans hm h

/-- Texts put together with something between them end with the last one. -/
theorem intercalate (between : String) {texts : List String} {last : String}
    (h : texts.getLast? = some last) : EndsWith (between.intercalate texts) last := by
  obtain ⟨before, rfl⟩ := List.getLast?_eq_some_iff.mp h
  by_cases hbefore : before = []
  · rw [hbefore, List.nil_append, String.intercalate_singleton]
    exact List.suffix_refl _
  · rw [String.intercalate_append_of_ne_nil hbefore (List.cons_ne_nil _ _),
      String.intercalate_singleton]
    exact append _ _

end Text.EndsWith

/-! ### From what went wrong to its cause -/

/-- Something that went wrong, on one of the levels at which it can be told. -/
inductive Mishap where
  | run (failure : RunFailure)
  | publish (failure : PublishFailure)
  | tool (failure : ToolFailure)
  | fault (fault : Fault)
  deriving Repr, DecidableEq

/-- What is right behind the failure of a tool: the fault that kept it from being started. -/
def ToolFailure.cause? : ToolFailure → Option Mishap
  | launch _ fault => some (.fault fault)
  | exit _ _ | unusable _ _ => none

/-- What is right behind a failure to publish. The failure of a tool is told as it is, so what is
behind it is the next to be told. -/
def PublishFailure.cause? : PublishFailure → Option Mishap
  | keyNotFound _ => none
  | tool failure => failure.cause?

/-- What is right behind a failed run. -/
def RunFailure.cause? : RunFailure → Option Mishap
  | sync failure | lint failure => some (.tool failure)
  | write _ fault => some (.fault fault)
  | publish failure => some (.publish failure)

namespace Mishap

/-- The message of what went wrong. -/
def message : Mishap → String
  | run failure => failure.message
  | publish failure => failure.message
  | tool failure => failure.message
  | fault reason => reason.message

/-- The messages of what caused it. A fault is a beginning. -/
def causes : Mishap → List String
  | run failure => failure.causes
  | publish failure => failure.causes
  | tool failure => failure.causes
  | fault _ => []

/-- What is right behind it. -/
def cause? : Mishap → Option Mishap
  | run failure => failure.cause?
  | publish failure => failure.cause?
  | tool failure => failure.cause?
  | fault _ => none

/-- How many levels there can be behind it. -/
def depth : Mishap → Nat
  | run _ => 3
  | publish _ => 2
  | tool _ => 1
  | fault _ => 0

variable {mishap cause : Mishap}

private theorem tool_of_cause? {failure : ToolFailure} (h : failure.cause? = some cause) :
    ∃ program reason, failure = .launch program reason ∧ cause = .fault reason := by
  cases failure with
  | launch program reason =>
    cases h
    exact ⟨program, reason, rfl, rfl⟩
  | exit command code => cases h
  | unusable command reason => cases h

private theorem publish_of_cause? {failure : PublishFailure} (h : failure.cause? = some cause) :
    ∃ program reason, failure = .tool (.launch program reason) ∧ cause = .fault reason := by
  cases failure with
  | keyNotFound path => cases h
  | tool failure =>
    obtain ⟨program, reason, rfl, rfl⟩ := tool_of_cause? h
    exact ⟨program, reason, rfl, rfl⟩

/-- A cause is on a deeper level. The message ends with that of the cause, and the causes begin with
it. -/
theorem next_of_cause? (h : mishap.cause? = some cause) :
    cause.depth < mishap.depth ∧ Text.EndsWith mishap.message cause.message ∧
      mishap.causes = cause.message :: cause.causes := by
  cases mishap with
  | run failure => cases failure <;> cases h <;> exact ⟨by simp [depth], .append _ _, rfl⟩
  | publish failure =>
    obtain ⟨program, reason, rfl, rfl⟩ := publish_of_cause? h
    exact ⟨by simp [depth], .append _ _, rfl⟩
  | tool failure =>
    obtain ⟨program, reason, rfl, rfl⟩ := tool_of_cause? h
    exact ⟨by simp [depth], .append _ _, rfl⟩
  | fault reason => cases h

/-- All that is behind it, from cause to cause. The last one is the root. -/
def chain (mishap : Mishap) : List Mishap :=
  match _h : mishap.cause? with
  | none => []
  | some cause => cause :: cause.chain
-- Publishing passes over the tool that failed, so the recursion follows the levels, not the values.
termination_by mishap.depth
decreasing_by exact (next_of_cause? _h).1

private theorem causes_of_root (h : mishap.cause? = none) : mishap.causes = [] := by
  have htool : ∀ {failure : ToolFailure}, failure.cause? = none → failure.causes = [] := by
    intro failure h
    cases failure with
    | launch program reason => cases h
    | exit command code => rfl
    | unusable command reason => rfl
  cases mishap with
  | run failure => cases failure <;> cases h
  | publish failure =>
    cases failure with
    | keyNotFound path => rfl
    | tool failure => exact htool h
  | tool failure => exact htool h
  | fault reason => rfl

/-! ### The chain of causes -/

private theorem chain_of_cause? (h : mishap.cause? = some cause) :
    mishap.chain = cause :: cause.chain := by
  rw [chain]
  split
  · next hnone =>
    rw [hnone] at h
    cases h
  · next other hother =>
    rw [hother] at h
    cases h
    rfl

private theorem chain_of_root (h : mishap.cause? = none) : mishap.chain = [] := by
  rw [chain]
  split
  · rfl
  · next other hother =>
    rw [hother] at h
    cases h

/-- The messages of the causes are those that one meets along the chain. -/
theorem map_message_chain (mishap : Mishap) : mishap.chain.map message = mishap.causes := by
  fun_induction chain mishap with
  | case1 mishap h => rw [List.map_nil, causes_of_root h]
  | case2 mishap cause h ih => rw [List.map_cons, ih, (next_of_cause? h).2.2]

-- Three levels below the run, but two messages: the tool's failure is told once.
example : causes (.run (.publish (.tool (.launch "git" .denied)))) =
    ["failed to launch `git`: Permission denied (os error 13)",
      "Permission denied (os error 13)"] := rfl

/-- Along the chain each message ends with the next one. -/
theorem isChain_message_chain (mishap : Mishap) :
    (mishap.message :: mishap.chain.map message).IsChain Text.EndsWith := by
  fun_induction chain mishap with
  | case1 mishap h => exact .singleton _
  | case2 mishap cause h ih =>
    rw [List.map_cons]
    exact .cons_cons (next_of_cause? h).2.1 ih

/-- A message ends with those of all that is behind it. -/
theorem endsWith_of_mem_chain {root : Mishap} (h : root ∈ mishap.chain) :
    Text.EndsWith mishap.message root.message := by
  fun_induction chain mishap with
  | case1 mishap h => cases h
  | case2 mishap cause hcause ih =>
    have hends := (next_of_cause? hcause).2.1
    rcases List.mem_cons.mp h with rfl | h
    · exact hends
    · exact hends.trans (ih h)

/-- A fault is the root of the chain that it is in. -/
theorem getLast?_chain_of_fault_mem {reason : Fault} (h : fault reason ∈ mishap.chain) :
    mishap.chain.getLast? = some (fault reason) := by
  fun_induction chain mishap with
  | case1 mishap h => cases h
  | case2 mishap cause hcause ih =>
    rcases List.mem_cons.mp h with rfl | h
    · rw [chain_of_root rfl]
      rfl
    · rw [List.getLast?_cons, ih h]
      rfl

private theorem fault_mem_chain_tool {failure : ToolFailure} {reason : Fault} :
    fault reason ∈ (tool failure).chain ↔ ∃ program, failure = .launch program reason := by
  cases failure with
  | launch program other =>
    rw [chain_of_cause? rfl, chain_of_root rfl]
    simp [eq_comm]
  | exit command code =>
    rw [chain_of_root rfl]
    simp
  | unusable command words =>
    rw [chain_of_root rfl]
    simp

/-- The failure of a tool while publishing adds nothing to the chain. -/
theorem chain_publish_tool (failure : ToolFailure) :
    (publish (.tool failure)).chain = (tool failure).chain := by
  rw [chain, chain]
  rfl

/-- A fault is behind a failed run exactly if the report could not be written or a tool could not be
started because of it. -/
theorem fault_mem_chain_run {failure : RunFailure} {reason : Fault} :
    fault reason ∈ (run failure).chain ↔
      (∃ path, failure = .write path reason) ∨
        ∃ program, failure.tool? = some (.launch program reason) := by
  cases failure with
  | sync failure =>
    rw [chain_of_cause? rfl]
    simp [fault_mem_chain_tool, RunFailure.tool?]
  | write path other =>
    rw [chain_of_cause? rfl, chain_of_root rfl]
    simp [RunFailure.tool?, eq_comm]
  | lint failure =>
    rw [chain_of_cause? rfl]
    simp [fault_mem_chain_tool, RunFailure.tool?]
  | publish failure =>
    rw [chain_of_cause? rfl]
    cases failure with
    | keyNotFound path =>
      rw [chain_of_root rfl]
      simp [RunFailure.tool?]
    | tool failure =>
      rw [chain_publish_tool]
      simp [fault_mem_chain_tool, RunFailure.tool?]

end Mishap

/-! ### The root of a failed run -/

namespace RunFailure

variable {failure : RunFailure} {mishap : Mishap}

/-- Behind a failed run there is always something. -/
theorem chain_ne_nil (failure : RunFailure) : (Mishap.run failure).chain ≠ [] := by
  obtain ⟨cause, hcause⟩ : ∃ cause, (Mishap.run failure).cause? = some cause := by
    cases failure <;> exact ⟨_, rfl⟩
  rw [Mishap.chain_of_cause? hcause]
  exact List.cons_ne_nil _ _

/-- The message of the root is the last of the causes. -/
theorem getLast?_causes (h : (Mishap.run failure).chain.getLast? = some mishap) :
    failure.causes.getLast? = some mishap.message := by
  have hcauses : (Mishap.run failure).chain.map Mishap.message = failure.causes :=
    (Mishap.run failure).map_message_chain
  rw [← hcauses, List.getLast?_map, h]
  rfl

end RunFailure

end LocaleRelay
