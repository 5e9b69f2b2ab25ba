import ImageFlow.Proofs.Hook.OneShot

/-!
# Exhausted quota behind contexts

A context is put before the text of a failure, with a colon and a blank between them.  A name
without a colon and without a blank cannot lie across such a place, however many contexts there are.
So it occurs in the text of an enriched failure exactly when it occurs in the message of the cause
or in one of the contexts.  That it does not get lost in contexts holds of every name.
-/

namespace ImageFlow

/-! ## Occurrences beside a separator -/

namespace Text

variable {sep : Char} {needle front back : List Char}

theorem eq_nil_of_prefix_cons (hfree : sep ∉ needle) (h : needle <+: sep :: back) :
    needle = [] := by
  rcases List.prefix_cons_iff.mp h with hnil | ⟨rest, rfl, -⟩
  · exact hnil
  · exact absurd List.mem_cons_self hfree

/-- What has no separator in it occurs on one side of every separator. -/
theorem infix_append_cons_iff (hfree : sep ∉ needle) :
    needle <:+: front ++ sep :: back ↔ needle <:+: front ∨ needle <:+: back := by
  constructor
  · intro h
    rcases List.infix_append_iff.mp h with hfront | hback | ⟨start, rest, rfl, hstart, hrest⟩
    · exact .inl hfront
    · rcases List.infix_cons_iff.mp hback with hprefix | hlater
      · obtain rfl := eq_nil_of_prefix_cons hfree hprefix
        exact .inr List.nil_infix
      · exact .inr hlater
    · -- the part that begins with the separator is empty
      have hrestFree : sep ∉ rest := fun hmem => hfree (List.mem_append_right start hmem)
      obtain rfl := eq_nil_of_prefix_cons hrestFree hrest
      rw [List.append_nil]
      exact .inl hstart.isInfix
  · rintro (hfront | hback)
    · exact hfront.trans (List.prefix_append front (sep :: back)).isInfix
    · have hsuffix : back <:+ front ++ sep :: back :=
        (List.suffix_cons sep back).trans (List.suffix_append front (sep :: back))
      exact hback.trans hsuffix.isInfix

end Text

/-! ## Failures in contexts -/

namespace WorkflowError

/-- A failure without context, with this message. -/
inductive Bare (message : String) : WorkflowError → Prop where
  | engine (code : Option String) : Bare message (.engine message code)
  | userInput : Bare message (.userInput message)

theorem Bare.message_eq {message : String} {cause : WorkflowError} (h : cause.Bare message) :
    cause.message = message := by
  cases h with
  | engine code => rfl
  | userInput => rfl

/-- Every failure is one without context, wrapped in contexts. -/
theorem exists_eq_wrap (error : WorkflowError) :
    ∃ (message : String) (cause : WorkflowError) (contexts : List String),
      cause.Bare message ∧ error = cause.wrap contexts := by
  induction error with
  | engine message code => exact ⟨message, _, [], .engine code, rfl⟩
  | userInput message => exact ⟨message, _, [], .userInput, rfl⟩
  | context text source ih =>
      obtain ⟨message, cause, contexts, hbare, rfl⟩ := ih
      refine ⟨message, cause, contexts ++ [text], hbare, ?_⟩
      rw [wrap, wrap, List.foldl_append]
      rfl

theorem toList_message_context (text : String) (source : WorkflowError) :
    (context text source).message.toList =
      text.toList ++ ':' :: ' ' :: source.message.toList := by
  simp [message]

section Wrap

variable (error : WorkflowError) (contexts : List String)

theorem wrap_cons (text : String) :
    error.wrap (text :: contexts) = (context text error).wrap contexts := rfl

theorem code_wrap : (error.wrap contexts).code = error.code := by
  induction contexts generalizing error with
  | nil => rfl
  | cons text rest ih => rw [wrap_cons, ih, code]

/-- Contexts stand before the text of the cause. -/
theorem message_suffix_wrap : error.message.toList <:+ (error.wrap contexts).message.toList := by
  induction contexts generalizing error with
  | nil => exact List.suffix_rfl
  | cons text rest ih =>
      have hcontext : error.message.toList <:+ (context text error).message.toList := by
        rw [toList_message_context]
        exact (List.suffix_append [':', ' '] _).trans (List.suffix_append text.toList _)
      exact hcontext.trans (ih (context text error))

theorem message_wrap_congr {other : WorkflowError} (h : error.message = other.message) :
    (error.wrap contexts).message = (other.wrap contexts).message := by
  induction contexts generalizing error other with
  | nil => exact h
  | cons text rest ih =>
      apply ih
      rw [message, message, h]

/-- Without a colon and a blank, a text occurs in a context or in the text of the cause. -/
theorem infix_message_wrap_iff
    {needle : List Char} (hcolon : ':' ∉ needle) (hblank : ' ' ∉ needle) :
    needle <:+: (error.wrap contexts).message.toList ↔
      needle <:+: error.message.toList ∨ ∃ text ∈ contexts, needle <:+: text.toList := by
  induction contexts generalizing error with
  | nil => simp [wrap]
  | cons text rest ih =>
      have hcontext : needle <:+: (context text error).message.toList ↔
          needle <:+: text.toList ∨ needle <:+: error.message.toList := by
        have hseparated : needle <:+: [] ++ ' ' :: error.message.toList ↔
            needle <:+: [] ∨ needle <:+: error.message.toList :=
          Text.infix_append_cons_iff hblank
        have hempty : needle <:+: [] → needle <:+: error.message.toList :=
          fun hnil => hnil.trans List.nil_infix
        rw [toList_message_context, Text.infix_append_cons_iff hcolon]
        rw [List.nil_append, or_iff_right_of_imp hempty] at hseparated
        rw [hseparated]
      rw [wrap_cons, ih, hcontext, List.exists_mem_cons_iff, or_comm (a := needle <:+: text.toList),
        or_assoc]

end Wrap

end WorkflowError

/-! ## The quota of a series -/

namespace SeriesFallback

/-- Another attempt is asked for exactly when one can be asked for and the quota is exhausted. -/
theorem retry_judge (s : SeriesFallback) (error : Option WorkflowError) :
    (s.judge error).value.retry = (s.armed && s.isExhausted error) := by
  obtain ⟨primary, secondary, state, troubleshootingUrl⟩ := s
  cases state with
  | fallenBack => rfl
  | primary =>
      cases secondary with
      | none => rfl
      | some secondary =>
          simp only [judge]
          split
          · next hexhausted => simp [armed, hexhausted]
          · next hother => simp [armed, hother, Logged.quiet, Verdict.pass]

end SeriesFallback

namespace Quota

/-- The text contains the name of the CPU quota of a machine series. -/
def NamedIn (series text : String) : Prop :=
  (Text.upper series ++ "_CPUS").toList <:+: text.toList

instance (series text : String) : Decidable (NamedIn series text) :=
  decidable_of_iff _ Text.occursIn_iff

/-- The name of the CPU quota of a machine series has neither a colon nor a blank. -/
def Unseparated (series : String) : Prop :=
  ':' ∉ (Text.upper series ++ "_CPUS").toList ∧ ' ' ∉ (Text.upper series ++ "_CPUS").toList

instance (series : String) : Decidable (Unseparated series) :=
  inferInstanceAs (Decidable (_ ∧ _))

theorem isExhausted_congr
    {error other : WorkflowError} (h : error.message = other.message) (series : String) :
    isExhausted error series = isExhausted other series := by
  rw [isExhausted, isExhausted, h]

theorem isExhausted_empty (error : WorkflowError) : isExhausted error "" = false := rfl

section Contexts

variable {error : WorkflowError} {series : String} (contexts : List String)

theorem isExhausted_wrap_of_isExhausted (h : isExhausted error series = true) :
    isExhausted (error.wrap contexts) series = true := by
  obtain ⟨hseries, hmarker⟩ := (isExhausted_iff error series).mp h
  apply (isExhausted_iff _ series).mpr
  exact ⟨hseries, hmarker.trans (error.message_suffix_wrap contexts).isInfix⟩

theorem isExhausted_wrap_iff (hseries : series ≠ "") (hunseparated : Unseparated series) :
    isExhausted (error.wrap contexts) series = true ↔
      NamedIn series error.message ∨ ∃ text ∈ contexts, NamedIn series text := by
  have hmessage := error.infix_message_wrap_iff contexts hunseparated.1 hunseparated.2
  rw [isExhausted_iff, and_iff_right hseries, hmessage]
  rfl

end Contexts

/-- Exhausted quota is seen through contexts.  Every failure is one of the engine or one for the
user, in contexts.  If the name of the quota of a series has neither a colon nor a blank, the quota
is reported exactly by the failures whose message or one of whose contexts contains that name.  Of
every series, a context never hides that its quota is exhausted, so a selection that asks for
another attempt after a failure also asks for it after the same failure in contexts; and of a series
as above, contexts without its name add nothing.  The code of the engine makes no difference and is
that of the cause in all contexts.  No failure exhausts the quota of a series without a name. -/
theorem exhaustion_seen_through_contexts :
    (∀ error : WorkflowError,
      ∃ (message : String) (cause : WorkflowError) (contexts : List String),
        cause.Bare message ∧ error = cause.wrap contexts) ∧
    (∀ (message : String) (cause : WorkflowError) (contexts : List String) (series : String),
      cause.Bare message → series ≠ "" → Unseparated series →
        (isExhausted (cause.wrap contexts) series = true ↔
          NamedIn series message ∨ ∃ text ∈ contexts, NamedIn series text)) ∧
    (∀ (error : WorkflowError) (contexts : List String) (series : String),
      isExhausted error series = true → isExhausted (error.wrap contexts) series = true) ∧
    (∀ (s : SeriesFallback) (error : WorkflowError) (contexts : List String),
      (s.judge (some error)).value.retry = true →
        (s.judge (some (error.wrap contexts))).value.retry = true) ∧
    (∀ (error : WorkflowError) (contexts : List String) (series : String),
      series ≠ "" → Unseparated series →
        isExhausted error series = false → isExhausted (error.wrap contexts) series = true →
          ∃ text ∈ contexts, NamedIn series text) ∧
    (∀ (message : String) (cause other : WorkflowError) (contexts : List String)
      (series : String), cause.Bare message → other.Bare message →
        isExhausted (cause.wrap contexts) series = isExhausted (other.wrap contexts) series) ∧
    (∀ (error : WorkflowError) (contexts : List String),
      (error.wrap contexts).code = error.code) ∧
    ∀ error : WorkflowError, isExhausted error "" = false := by
  refine ⟨WorkflowError.exists_eq_wrap, ?_, ?_, ?_, ?_, ?_, WorkflowError.code_wrap,
    isExhausted_empty⟩
  · intro message cause contexts series hbare hseries hunseparated
    rw [isExhausted_wrap_iff contexts hseries hunseparated, hbare.message_eq]
  · intro error contexts series hexhausted
    exact isExhausted_wrap_of_isExhausted contexts hexhausted
  · intro s error contexts hretry
    rw [SeriesFallback.retry_judge, Bool.and_eq_true] at hretry ⊢
    exact ⟨hretry.1, isExhausted_wrap_of_isExhausted contexts hretry.2⟩
  · intro error contexts series hseries hunseparated hbefore hafter
    have hcases := (isExhausted_wrap_iff contexts hseries hunseparated).mp hafter
    refine hcases.resolve_left ?_
    intro hnamed
    have hexhausted := (isExhausted_iff error series).mpr ⟨hseries, hnamed⟩
    rw [hbefore] at hexhausted
    cases hexhausted
  · intro message cause other contexts series hcause hother
    apply isExhausted_congr
    apply WorkflowError.message_wrap_congr
    rw [hcause.message_eq, hother.message_eq]

/-- A context reports the quota of `n2` that the message of the cause does not, and the quota of
`n2d` is another one.  A selection that is at `n2` asks for another attempt in a context, too. -/
theorem exhaustion_seen_through_contexts_n2 :
    let cause : WorkflowError := .engine "limit reached" (some "QUOTA_EXCEEDED")
    let reported : WorkflowError := .engine "Quota 'N2_CPUS' exceeded" none
    let selection := SeriesFallback.ofSeries "n2" (some "n1")
    isExhausted (cause.wrap ["Quota 'N2_CPUS' exceeded", "step create"]) "n2" = true ∧
      isExhausted (cause.wrap ["Quota 'N2D_CPUS' exceeded", "step create"]) "n2" = false ∧
      (∃ text ∈ ["Quota 'N2_CPUS' exceeded", "step create"], NamedIn "n2" text) ∧
      isExhausted (reported.wrap ["step create"]) "n2" = true ∧
      (selection.judge (some (reported.wrap ["step create"]))).value.retry = true := by
  intro cause reported selection
  obtain ⟨-, hiff, hkept, hretried, hadded, -, -, -⟩ := exhaustion_seen_through_contexts
  have hbare : cause.Bare "limit reached" := .engine _
  have hseen (contexts : List String) :=
    hiff _ cause contexts "n2" hbare (by decide) (by decide)
  have hcontext :
      isExhausted (cause.wrap ["Quota 'N2_CPUS' exceeded", "step create"]) "n2" = true :=
    (hseen _).mpr (.inr ⟨_, List.mem_cons_self, by decide⟩)
  have hother :
      ¬isExhausted (cause.wrap ["Quota 'N2D_CPUS' exceeded", "step create"]) "n2" = true := by
    rw [hseen]
    decide
  have hreported : isExhausted reported "n2" = true := by decide
  have hretry : (selection.judge (some reported)).value.retry = true := by
    rw [SeriesFallback.retry_judge, Bool.and_eq_true]
    exact ⟨rfl, hreported⟩
  refine ⟨hcontext, Bool.eq_false_iff.mpr hother, ?_, ?_, ?_⟩
  · exact hadded cause _ "n2" (by decide) (by decide) (by decide) hcontext
  · exact hkept reported _ "n2" hreported
  · exact hretried selection reported _ hretry

/-- The name of the quota of this series lies across the place where a context begins. -/
example : isExhausted (.context "A" (.userInput "B_CPUS")) "a: b" = true ∧
    ¬NamedIn "a: b" "A" ∧ ¬NamedIn "a: b" "B_CPUS" := by
  decide

end Quota

end ImageFlow
