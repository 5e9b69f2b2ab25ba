import ImageFlow.Resolve.Failure

/-!
# Conversations with a cloud

What a session asks of the cloud and what it is answered, in order, as a transcript.  A session
that ends well is taken apart into its parts: each of them ends well, and adds the calls that it
makes to the transcript.  A session that fails does so in one of its parts, after which nothing is
added.
-/

namespace ImageFlow

/-- A call and the answer to it. -/
structure CloudReply where
  call : CloudCall
  answer : Except ClientError call.Answer

namespace Cloud

variable {ω : Type}

/-- The answer of a cloud in a world, and the world that it leaves behind. -/
def reply (cloud : Cloud ω) (call : CloudCall) (world : ω) :
    Except ClientError call.Answer × ω :=
  cloud call world

/-- A cloud that also writes down what it is asked and what it answers, in order. -/
def transcribed (cloud : Cloud ω) : Cloud (ω × List CloudReply) := fun call (world, replies) =>
  let (answer, world) := cloud.reply call world
  (answer, world, replies ++ [⟨call, answer⟩])

end Cloud

namespace Session

variable {ω ε α β : Type}

/-- How a session ends on a world, and the world that it leaves behind. -/
def outcome (session : Session ω ε α) (world : ω) : Except ε α × ω :=
  (session.runOn world).value

@[simp]
theorem outcome_pure (value : α) (world : ω) :
    (pure value : Session ω ε α).outcome world = (.ok value, world) := rfl

@[simp]
theorem outcome_throw (failure : ε) (world : ω) :
    (throw failure : Session ω ε α).outcome world = (.error failure, world) := rfl

@[simp]
theorem outcome_lift (result : Except ε α) (world : ω) :
    outcome (ExceptT.mk (pure result) : Session ω ε α) world = (result, world) := rfl

@[simp]
theorem outcome_tell (event : LogEvent) (world : ω) :
    (tell event : Session ω ε Unit).outcome world = (.ok (), world) := rfl

theorem outcome_bind (x : Session ω ε α) (f : α → Session ω ε β) (world : ω) :
    (x >>= f).outcome world =
      outcome (ExceptT.mk (ExceptT.bindCont f (x.outcome world).1)) (x.outcome world).2 := rfl

/-- A session of two parts ends well exactly when both parts do. -/
theorem outcome_bind_eq_ok_iff {x : Session ω ε α} {f : α → Session ω ε β} {world after : ω}
    {value : β} :
    (x >>= f).outcome world = (.ok value, after) ↔
      ∃ a between, x.outcome world = (.ok a, between) ∧
        (f a).outcome between = (.ok value, after) := by
  rw [outcome_bind]
  rcases x.outcome world with ⟨failure | a, between⟩
  · have herror : outcome (ExceptT.mk (ExceptT.bindCont f (.error failure))) between =
        (.error failure, between) := rfl
    simp [herror]
  · have hok : outcome (ExceptT.mk (ExceptT.bindCont f (.ok a))) between =
        (f a).outcome between := rfl
    simp [hok, and_assoc]

/-- A session of two parts fails exactly when its first part does, or its second one after it. -/
theorem outcome_bind_eq_error_iff {x : Session ω ε α} {f : α → Session ω ε β} {world after : ω}
    {failure : ε} :
    (x >>= f).outcome world = (.error failure, after) ↔
      x.outcome world = (.error failure, after) ∨
        ∃ a between, x.outcome world = (.ok a, between) ∧
          (f a).outcome between = (.error failure, after) := by
  rw [outcome_bind]
  rcases x.outcome world with ⟨first | a, between⟩
  · have herror : outcome (ExceptT.mk (ExceptT.bindCont f (.error first))) between =
        (.error first, between) := rfl
    simp [herror]
  · have hok : outcome (ExceptT.mk (ExceptT.bindCont f (.ok a))) between =
        (f a).outcome between := rfl
    simp [hok, and_assoc]

variable {cloud : Cloud ω} {call : CloudCall} {world after : ω} {replies all : List CloudReply}

/-- A call that has to succeed adds itself and its answer to the transcript. -/
theorem outcome_ask_eq_ok_iff {fail : ClientError → ε} {value : call.Answer} :
    (ask cloud.transcribed call fail).outcome (world, replies) = (.ok value, after, all) ↔
      cloud.reply call world = (.ok value, after) ∧ all = replies ++ [⟨call, .ok value⟩] := by
  have hask : (ask cloud.transcribed call fail).outcome (world, replies) =
      ((cloud.reply call world).1.mapError fail, (cloud.reply call world).2,
        replies ++ [⟨call, (cloud.reply call world).1⟩]) := rfl
  rw [hask]
  rcases cloud.reply call world with ⟨failure | answer, between⟩
  · have herror : (Except.error failure : Except ClientError call.Answer).mapError fail =
        .error (fail failure) := rfl
    simp [herror]
  · have hok : (Except.ok answer : Except ClientError call.Answer).mapError fail =
        .ok answer := rfl
    simp only [hok, Prod.mk.injEq, Except.ok.injEq]
    constructor
    · rintro ⟨rfl, rfl, rfl⟩
      exact ⟨⟨rfl, rfl⟩, rfl⟩
    · rintro ⟨⟨rfl, rfl⟩, rfl⟩
      exact ⟨rfl, rfl, rfl⟩

/-- A call that has to succeed fails as the cloud does, and then too it is in the transcript. -/
theorem outcome_ask_eq_error_iff {fail : ClientError → ε} {failure : ε} :
    (ask cloud.transcribed call fail).outcome (world, replies) = (.error failure, after, all) ↔
      ∃ source, cloud.reply call world = (.error source, after) ∧ failure = fail source ∧
        all = replies ++ [⟨call, .error source⟩] := by
  have hask : (ask cloud.transcribed call fail).outcome (world, replies) =
      ((cloud.reply call world).1.mapError fail, (cloud.reply call world).2,
        replies ++ [⟨call, (cloud.reply call world).1⟩]) := rfl
  rw [hask]
  rcases cloud.reply call world with ⟨source | answer, between⟩
  · have herror : (Except.error source : Except ClientError call.Answer).mapError fail =
        .error (fail source) := rfl
    simp only [herror, Prod.mk.injEq, Except.error.injEq]
    constructor
    · rintro ⟨rfl, rfl, rfl⟩
      exact ⟨source, ⟨rfl, rfl⟩, rfl, rfl⟩
    · rintro ⟨_, ⟨rfl, rfl⟩, rfl, rfl⟩
      exact ⟨rfl, rfl, rfl⟩
  · have hok : (Except.ok answer : Except ClientError call.Answer).mapError fail =
        .ok answer := rfl
    simp [hok]

/-- A call that may fail adds itself and its answer to the transcript. -/
theorem outcome_attempt_eq_ok_iff {answer : Except ClientError call.Answer} :
    outcome (attempt cloud.transcribed call : Session (ω × List CloudReply) ε _)
        (world, replies) = (.ok answer, after, all) ↔
      cloud.reply call world = (answer, after) ∧ all = replies ++ [⟨call, answer⟩] := by
  have hattempt : outcome (attempt cloud.transcribed call : Session (ω × List CloudReply) ε _)
      (world, replies) =
        (.ok (cloud.reply call world).1, (cloud.reply call world).2,
          replies ++ [⟨call, (cloud.reply call world).1⟩]) := rfl
  rw [hattempt]
  rcases cloud.reply call world with ⟨given, between⟩
  simp only [Prod.mk.injEq, Except.ok.injEq]
  constructor
  · rintro ⟨rfl, rfl, rfl⟩
    exact ⟨⟨rfl, rfl⟩, rfl⟩
  · rintro ⟨⟨rfl, rfl⟩, rfl⟩
    exact ⟨rfl, rfl, rfl⟩

/-- A call that may fail does not end the session. -/
theorem outcome_attempt_ne_error {failure : ε} :
    outcome (attempt cloud.transcribed call : Session (ω × List CloudReply) ε _)
      (world, replies) ≠ (.error failure, after, all) := by
  have hattempt : (outcome (attempt cloud.transcribed call : Session (ω × List CloudReply) ε _)
      (world, replies)).1 = .ok (cloud.reply call world).1 := rfl
  intro h
  rw [h] at hattempt
  cases hattempt

end Session

end ImageFlow
