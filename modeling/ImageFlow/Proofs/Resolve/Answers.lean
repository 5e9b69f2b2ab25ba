import ImageFlow.Proofs.Resolve.Transcript
import ImageFlow.Resolve.Resolver

/-!
# Answers in a transcript

A transcript is about the cloud that was asked: each answer that is written down in a resolution is
one that the cloud gives to this call, in some world.  This holds of the parts of a session, and
every way of putting sessions together keeps it.
-/

namespace ImageFlow

variable {ω ε α β : Type}

/-- In some world, the cloud answers the call in this way. -/
def Cloud.Answers (cloud : Cloud ω) (reply : CloudReply) : Prop :=
  ∃ world after, cloud.reply reply.call world = (reply.answer, after)

namespace Session

/-- The session writes nothing down but answers of the cloud. -/
def WritesAnswers (cloud : Cloud ω) (session : Session (ω × List CloudReply) ε α) : Prop :=
  ∀ world before, (∀ reply ∈ before, cloud.Answers reply) →
    ∀ reply ∈ (session.outcome (world, before)).2.2, cloud.Answers reply

namespace WritesAnswers

variable {cloud : Cloud ω}

theorem pure (value : α) :
    WritesAnswers cloud (Pure.pure value : Session (ω × List CloudReply) ε α) :=
  fun _ _ hbefore => hbefore

theorem throw (failure : ε) :
    WritesAnswers cloud (throw failure : Session (ω × List CloudReply) ε α) :=
  fun _ _ hbefore => hbefore

theorem lift (result : Except ε α) :
    WritesAnswers cloud (ExceptT.mk (Pure.pure result) : Session (ω × List CloudReply) ε α) :=
  fun _ _ hbefore => hbefore

theorem tell (event : LogEvent) :
    WritesAnswers cloud (Session.tell event : Session (ω × List CloudReply) ε Unit) :=
  fun _ _ hbefore => hbefore

theorem mem_append_reply {call : CloudCall} {world : ω} {before : List CloudReply}
    (hbefore : ∀ reply ∈ before, cloud.Answers reply) :
    ∀ reply ∈ before ++ [⟨call, (cloud.reply call world).1⟩], cloud.Answers reply := by
  intro reply hreply
  rcases List.mem_append.mp hreply with hmem | hlast
  · exact hbefore reply hmem
  · rw [List.mem_singleton.mp hlast]
    exact ⟨world, _, rfl⟩

theorem ask (call : CloudCall) (fail : ClientError → ε) :
    WritesAnswers cloud (Session.ask cloud.transcribed call fail) :=
  fun _ _ hbefore => mem_append_reply hbefore

theorem attempt (call : CloudCall) :
    WritesAnswers cloud
      (Session.attempt cloud.transcribed call : Session (ω × List CloudReply) ε _) :=
  fun _ _ hbefore => mem_append_reply hbefore

theorem bind {x : Session (ω × List CloudReply) ε α} {f : α → Session (ω × List CloudReply) ε β}
    (hx : WritesAnswers cloud x) (hf : ∀ a, WritesAnswers cloud (f a)) :
    WritesAnswers cloud (x >>= f) := by
  intro world before hbefore
  have hfirst := hx world before hbefore
  rw [outcome_bind]
  rcases hrun : x.outcome (world, before) with ⟨failure | a, between, replies⟩
  · rw [hrun] at hfirst
    exact hfirst
  · rw [hrun] at hfirst
    exact hf a between replies hfirst

end WritesAnswers

end Session

open Session

/-! ## The steps of a resolution -/

namespace Resolution

variable {cloud : Cloud ω}

theorem writesAnswers_project (r : Resolution) :
    WritesAnswers cloud (project cloud.transcribed r) := by
  rw [project]
  split
  · exact .pure r
  · apply WritesAnswers.bind (.attempt _)
    intro answer
    cases answer with
    | error => exact .throw _
    | ok found =>
        dsimp only
        split
        · exact .throw _
        · exact .bind (.tell _) fun _ => .pure _

theorem writesAnswers_bucketRegionFor (zone : String) :
    WritesAnswers cloud (bucketRegionFor cloud.transcribed zone) := by
  rw [bucketRegionFor]
  split
  · exact .lift _
  · apply WritesAnswers.bind (.attempt _)
    intro answer
    cases answer with
    | error => exact .pure _
    | ok answer =>
        dsimp only
        split
        · exact .pure _
        · exact .lift _

theorem writesAnswers_scratchPath (r : Resolution) :
    WritesAnswers cloud (scratchPath cloud.transcribed r) := by
  rw [scratchPath]
  split
  · refine .bind ?_ fun _ => .pure _
    exact .bind (.lift _) fun _ => .bind (.ask _ _) fun _ => .pure _
  · apply WritesAnswers.bind (writesAnswers_bucketRegionFor _)
    intro region
    exact .bind (.ask _ _) fun _ => .bind (.tell _) fun _ => .pure _

theorem writesAnswers_zone (r : Resolution) : WritesAnswers cloud (zone cloud.transcribed r) := by
  rw [zone]
  split
  · exact .pure r
  · refine .bind ?_ fun _ => .pure _
    apply WritesAnswers.bind (.ask _ _)
    intro zones
    split
    · exact .throw _
    · exact .bind (.tell _) fun _ => .pure _

theorem writesAnswers_network (r : Resolution) :
    WritesAnswers cloud (network (.ofCloud cloud.transcribed) r) := by
  refine .bind (.bind ?_ fun _ => .pure _) fun _ => .pure _
  rw [NetworkChoice.choose]
  split
  · exact .pure _
  · split
    · exact .pure _
    · exact .bind (.ask _ _) fun _ => .bind (.tell _) fun _ => .pure _

theorem writesAnswers_series (r : Resolution) :
    WritesAnswers cloud (series (.ofCloud cloud.transcribed) r) := by
  rw [series]
  split
  · exact .pure r
  · refine .bind ?_ fun _ => .pure _
    exact .bind (.ask _ _) fun _ => .bind (.tell _) fun _ => .pure _

theorem writesAnswers_of_mem_steps {step : ResolutionStep (ω × List CloudReply)}
    (h : step ∈ steps cloud.transcribed (.ofCloud cloud.transcribed)) (r : Resolution) :
    WritesAnswers cloud (step r) := by
  simp only [steps, List.mem_cons, List.not_mem_nil, or_false] at h
  rcases h with rfl | rfl | rfl | rfl | rfl | rfl | rfl
  · exact writesAnswers_project r
  · exact writesAnswers_scratchPath r
  · exact .pure _
  · exact writesAnswers_zone r
  · exact .bind (.lift _) fun _ => .pure _
  · exact writesAnswers_network r
  · exact writesAnswers_series r

/-- Taking steps writes nothing down but answers of the cloud, if each of the steps does. -/
theorem answers_of_take {steps : List (ResolutionStep (ω × List CloudReply))}
    (h : ∀ step ∈ steps, ∀ r, WritesAnswers cloud (step r)) (r : Resolution) (world : ω)
    {before : List CloudReply} (hbefore : ∀ reply ∈ before, cloud.Answers reply) :
    ∀ reply ∈ ((take steps r).run (world, before)).value.2.2, cloud.Answers reply := by
  induction steps generalizing r world before with
  | nil => exact hbefore
  | cons step steps ih =>
      obtain ⟨hstep, hsteps⟩ := List.forall_mem_cons.mp h
      have hfirst := hstep r world before hbefore
      have hvalue : ((step r).run.run (world, before)).value = (step r).outcome (world, before) :=
        rfl
      rw [take, StateT.run_bind, Logged.value_bind, hvalue]
      rcases hrun : (step r).outcome (world, before) with ⟨failure | next, between, replies⟩
      · rw [hrun] at hfirst
        exact hfirst
      · rw [hrun] at hfirst
        exact ih hsteps next between hfirst

/-- Every answer in the transcript of a resolution is one that the cloud gives. -/
theorem answers_of_mem_resolve (cloud : Cloud ω) (q : Parameters) (world : ω) {reply : CloudReply}
    (h : reply ∈
      (q.resolve cloud.transcribed (.ofCloud cloud.transcribed) (world, [])).world.2) :
    cloud.Answers reply :=
  answers_of_take (fun _ hstep => writesAnswers_of_mem_steps hstep) { params := q } world (by simp)
    reply h

end Resolution

end ImageFlow
