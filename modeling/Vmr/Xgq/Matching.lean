import Vmr.Xgq.Client

/-!
# Requests and their answers

Which completion a request takes for its own is decided by the completion ring
alone.  It is the right one as long as requests do not overlap, none is
submitted while a completion lies unread, and no answer to an earlier request
is published while one is in progress.
-/

namespace Vmr.Xgq

open Vmr.Lib

def Phase.submission? : Phase → Option Nat
  | .granted _ submission | .filled _ submission | .polling _ submission _ => some submission
  | .taken _ submission _ | .interpreted _ submission => some submission
  | .unborn | .ready _ | .finished => none

namespace Client

variable (client : Client)

def InProgress (request : Nat) : Prop :=
  ∃ submission, (client.request request).submission? = some submission

def Answers (completion request : Nat) : Prop :=
  ∃ submission, client.answers[completion]? = some submission ∧
    client.submissions[submission]? = some request

end Client

/--
A request is submitted only when none is in progress and no completion is
unread.  While a request is in progress, the APU publishes only its answer.
-/
def ClientAction.orderly (client : Client) : ClientAction → Prop
  | .produce _ => client.rings.cq.published = client.rings.cq.taken ∧
      ∀ other, ¬ client.InProgress other
  | .apuPublish => ∀ request, client.InProgress request → ∀ completion,
      client.rings.cq.published ≤ completion → completion < client.rings.cq.granted →
        client.Answers completion request
  | _ => True

/-- What every request took for its answer is the APU's answer to it. -/
structure Client.Matched (client : Client) : Prop where
  own : ∀ request completion, (request, completion) ∈ client.consumed →
    client.Answers completion request
  slot : ∀ request completion, (request, completion) ∈ client.consumed →
    client.rings.cq.takeAddr completion = client.rings.cq.grantAddr completion

structure Client.Inv (layout : XgqLayout) (sqBase cqBase : UInt32) (client : Client) :
    Prop where
  counted : client.rings.Counted layout sqBase cqBase
  submissions_length : client.submissions.length = client.rings.sq.granted
  answers_length : client.answers.length = client.rings.cq.granted
  owner : ∀ request submission, (client.request request).submission? = some submission →
    client.submissions[submission]? = some request
  alone : ∀ request other, client.InProgress request → client.InProgress other →
    request = other
  unread : ∀ completion, client.rings.cq.taken ≤ completion →
    completion < client.rings.cq.published → ∀ request, client.InProgress request →
      client.Answers completion request
  taken : ∀ request kind submission completion,
    client.request request = .taken kind submission completion →
    completion < client.rings.cq.taken ∧ client.Answers completion request
  consumed : ∀ request completion, (request, completion) ∈ client.consumed →
    completion < client.rings.cq.taken ∧ client.Answers completion request

namespace Client

variable {client client' : Client} {layout : XgqLayout} {sqBase cqBase : UInt32}

@[simp] theorem release_rings (request : Nat) : (client.release request).rings = client.rings := by
  unfold release
  split <;> first | rfl | (split <;> rfl)

@[simp] theorem release_request (request : Nat) :
    (client.release request).request = client.request := by
  unfold release
  split <;> first | rfl | (split <;> rfl)

@[simp] theorem release_submissions (request : Nat) :
    (client.release request).submissions = client.submissions := by
  unfold release
  split <;> first | rfl | (split <;> rfl)

@[simp] theorem release_answers (request : Nat) :
    (client.release request).answers = client.answers := by
  unfold release
  split <;> first | rfl | (split <;> rfl)

@[simp] theorem release_consumed (request : Nat) :
    (client.release request).consumed = client.consumed := by
  unfold release
  split <;> first | rfl | (split <;> rfl)

theorem Answers.mono {completion request : Nat} (h : client.Answers completion request)
    (hanswers : client.answers <+: client'.answers)
    (hsubmissions : client.submissions <+: client'.submissions) :
    client'.Answers completion request := by
  obtain ⟨submission, hanswer, howner⟩ := h
  refine ⟨submission, ?_, ?_⟩
  · obtain ⟨hlt, rfl⟩ := List.getElem?_eq_some_iff.1 hanswer
    rw [← List.prefix_iff_getElem?.1 hanswers completion hlt]
  · obtain ⟨hlt, rfl⟩ := List.getElem?_eq_some_iff.1 howner
    rw [← List.prefix_iff_getElem?.1 hsubmissions submission hlt]

theorem Inv.init (memory : Memory) :
    (Client.init (.init layout memory sqBase cqBase)).Inv layout sqBase cqBase := by
  refine ⟨⟨.init, .init⟩, rfl, rfl, ?_, ?_, ?_, ?_, ?_⟩
  · intro request submission h
    cases h
  · rintro request other ⟨submission, h⟩
    cases h
  · intro completion _ hlt
    exact absurd hlt (Nat.not_lt_zero _)
  · intro request kind submission completion h
    cases h
  · intro request completion h
    cases h

private theorem Inv.move (h : client.Inv layout sqBase cqBase) (request : Nat) (phase : Phase)
    (hrequest : client'.request = Function.update client.request request phase)
    (hcounted : client'.rings.Counted layout sqBase cqBase)
    (hsubmissions : client'.submissions = client.submissions)
    (hanswers : client'.answers = client.answers)
    (hsq : client'.rings.sq.granted = client.rings.sq.granted)
    (hgranted : client'.rings.cq.granted = client.rings.cq.granted)
    (hpublished : client'.rings.cq.published = client.rings.cq.published)
    (htaken : client.rings.cq.taken ≤ client'.rings.cq.taken)
    (hphase : ∀ submission, phase.submission? = some submission →
      (client.request request).submission? = some submission)
    (hphaseTaken : ∀ kind submission completion,
      phase = .taken kind submission completion →
      completion < client'.rings.cq.taken ∧ client.Answers completion request)
    (hconsumed : ∀ pair ∈ client'.consumed, pair ∈ client.consumed ∨
      pair.2 < client'.rings.cq.taken ∧ client.Answers pair.2 pair.1) :
    client'.Inv layout sqBase cqBase := by
  have answers_iff : ∀ completion request,
      client'.Answers completion request ↔ client.Answers completion request := by
    intro completion request
    simp [Answers, hanswers, hsubmissions]
  have submission_of : ∀ other submission,
      (client'.request other).submission? = some submission →
      (client.request other).submission? = some submission := by
    intro other submission hother
    rw [hrequest] at hother
    by_cases heq : other = request
    · subst heq
      exact hphase submission (by simpa using hother)
    · simpa [heq] using hother
  have progress_of : ∀ other, client'.InProgress other → client.InProgress other := by
    rintro other ⟨submission, hother⟩
    exact ⟨submission, submission_of other submission hother⟩
  refine ⟨hcounted, ?_, ?_, ?_, ?_, ?_, ?_, ?_⟩
  · rw [hsubmissions, hsq, h.submissions_length]
  · rw [hanswers, hgranted, h.answers_length]
  · intro other submission hother
    rw [hsubmissions]
    exact h.owner other submission (submission_of other submission hother)
  · intro first second hfirst hsecond
    exact h.alone first second (progress_of first hfirst) (progress_of second hsecond)
  · intro completion hlo hhi other hother
    rw [answers_iff]
    exact h.unread completion (Nat.le_trans htaken hlo) (hpublished ▸ hhi) other
      (progress_of other hother)
  · intro other kind submission completion hother
    rw [answers_iff]
    rw [hrequest] at hother
    by_cases heq : other = request
    · subst heq
      exact hphaseTaken kind submission completion (by simpa using hother)
    · obtain ⟨hlt, hanswer⟩ := h.taken other kind submission completion
        (by simpa [heq] using hother)
      exact ⟨Nat.lt_of_lt_of_le hlt htaken, hanswer⟩
  · intro other completion hmem
    rw [answers_iff]
    rcases hconsumed _ hmem with hold | hnew
    · obtain ⟨hlt, hanswer⟩ := h.consumed other completion hold
      exact ⟨Nat.lt_of_lt_of_le hlt htaken, hanswer⟩
    · exact hnew

theorem Inv.finished (h : client.Inv layout sqBase cqBase) (request : Nat) {rings : RingPair}
    (hcounted : rings.Counted layout sqBase cqBase)
    (hsq : rings.sq.granted = client.rings.sq.granted)
    (hgranted : rings.cq.granted = client.rings.cq.granted)
    (hpublished : rings.cq.published = client.rings.cq.published)
    (htaken : client.rings.cq.taken ≤ rings.cq.taken) :
    ((({ client with rings } : Client).release request).setRequest request .finished).Inv
      layout sqBase cqBase := by
  refine h.move request .finished ?_ ?_ ?_ ?_ ?_ ?_ ?_ ?_ (fun _ hsub => by cases hsub)
    (fun _ _ _ heq => by cases heq) ?_
  · simp [setRequest]
  · simpa [setRequest] using hcounted
  · simp [setRequest]
  · simp [setRequest]
  · simpa [setRequest] using hsq
  · simpa [setRequest] using hgranted
  · simpa [setRequest] using hpublished
  · simpa [setRequest] using htaken
  · intro pair hpair
    exact .inl (by simpa [setRequest] using hpair)

theorem Inv.rings (h : client.Inv layout sqBase cqBase)
    (hrequest : client'.request = client.request)
    (hcounted : client'.rings.Counted layout sqBase cqBase)
    (hsubmissions : client'.submissions = client.submissions)
    (hanswers : client'.answers = client.answers)
    (hconsumed : client'.consumed = client.consumed)
    (hsq : client'.rings.sq.granted = client.rings.sq.granted)
    (hgranted : client'.rings.cq.granted = client.rings.cq.granted)
    (hpublished : client'.rings.cq.published = client.rings.cq.published)
    (htaken : client'.rings.cq.taken = client.rings.cq.taken) :
    client'.Inv layout sqBase cqBase := by
  refine h.move 0 (client.request 0) ?_ hcounted hsubmissions hanswers hsq hgranted hpublished
    (Nat.le_of_eq htaken.symm) (fun _ hsub => hsub) ?_ ?_
  · rw [hrequest, Function.update_eq_self]
  · intro kind submission completion hphase
    rw [htaken]
    exact h.taken 0 kind submission completion hphase
  · intro pair hpair
    rw [hconsumed] at hpair
    exact .inl hpair

/-! ## Steps of a request -/

theorem Inv.begin (h : client.Inv layout sqBase cqBase) {request : Nat}
    {kind : RequestKind} (hstep : client.begin request kind = some client') :
    client'.Inv layout sqBase cqBase := by
  unfold Client.begin at hstep
  split at hstep
  case h_4 => contradiction
  all_goals
    cases hstep
    refine h.move request _ rfl h.counted rfl rfl rfl rfl rfl (Nat.le_refl _)
      (fun _ hsub => by cases hsub) (fun _ _ _ heq => by cases heq) (fun _ hpair => .inl hpair)

theorem Inv.produce (h : client.Inv layout sqBase cqBase) {request : Nat}
    (horderly : (ClientAction.produce request).orderly client)
    (hstep : client.produce request = some client') :
    client'.Inv layout sqBase cqBase := by
  obtain ⟨hread, hnobody⟩ := horderly
  unfold Client.produce at hstep
  split at hstep
  · rename_i kind hphase
    have hpair : client.rings.apply (.sq .produce) =
        some { client.rings with sq := client.rings.sq.produce } := rfl
    have hcounted := xgqSystem_counted.step _ _ _ h.counted hpair
    obtain ⟨_, _, hcounts⟩ := h.counted.1
    rcases Nat.lt_or_eq_of_le hcounts.granted_bound.2 with hroom | hfull
    · obtain ⟨_, _, _, hcall⟩ := hcounts.xgqProduce_room hroom
      obtain ⟨ring, heq, -⟩ := h.counted.1.produce_room hroom
      simp only [hcall] at hstep
      cases hstep
      have hprefix : client.submissions <+: client.submissions ++ [request] :=
        List.prefix_append _ _
      have nobody_else : ∀ other,
          InProgress (setRequest { client with
            rings := { client.rings with sq := client.rings.sq.produce }
            submissions := client.submissions ++ [request] } request
              (.granted kind client.rings.sq.granted)) other → other = request := by
        rintro other ⟨submission, hother⟩
        by_contra hne
        exact hnobody other ⟨submission, by simpa [setRequest, hne] using hother⟩
      refine ⟨hcounted, ?_, h.answers_length, ?_, ?_, ?_, ?_, ?_⟩
      · simp [setRequest, heq, h.submissions_length]
      · intro other submission hother
        obtain rfl := nobody_else other ⟨submission, hother⟩
        obtain rfl : client.rings.sq.granted = submission := by
          simpa [setRequest, Phase.submission?] using hother
        simp [setRequest, ← h.submissions_length]
      · intro first second hfirst hsecond
        rw [nobody_else first hfirst, nobody_else second hsecond]
      · intro completion hlo hhi
        simp only [setRequest] at hlo hhi
        omega
      · intro other kind' submission completion hother
        by_cases hne : other = request
        · subst hne
          simp [setRequest] at hother
        · obtain ⟨hlt, hanswer⟩ := h.taken other kind' submission completion
            (by simpa [setRequest, hne] using hother)
          exact ⟨hlt, hanswer.mono (List.prefix_refl _) hprefix⟩
      · intro other completion hmem
        obtain ⟨hlt, hanswer⟩ := h.consumed other completion hmem
        exact ⟨hlt, hanswer.mono (List.prefix_refl _) hprefix⟩
    · obtain ⟨ring, heq, -⟩ := h.counted.1.produce_full hfull
      simp only [hcounts.xgqProduce_full hfull] at hstep
      cases hstep
      exact h.finished request hcounted (by simp [heq]) rfl rfl (Nat.le_refl _)
  · contradiction

theorem Inv.fill (h : client.Inv layout sqBase cqBase) {request : Nat} {payload : Entry}
    (hstep : client.fill request payload = some client') :
    client'.Inv layout sqBase cqBase := by
  unfold Client.fill at hstep
  split at hstep
  · rename_i kind submission hphase
    simp only [Option.bind_eq_bind, Option.bind_eq_some_iff] at hstep
    obtain ⟨rings, hrings, hstep⟩ := hstep
    cases hstep
    have hcounted := xgqSystem_counted.step _ _ _ h.counted hrings
    obtain ⟨hring, hcq⟩ := RingPair.apply_sq hrings
    simp only [Channel.apply, Option.ite_none_right_eq_some, Option.some.injEq,
      Prod.mk.injEq] at hring
    refine h.move request (.filled kind submission) rfl hcounted rfl rfl ?_ ?_ ?_ ?_ ?_
      (fun _ _ _ heq => by cases heq) (fun _ hpair => .inl hpair)
    · simp [setRequest, ← hring.2.2]
    · simp [setRequest, hcq]
    · simp [setRequest, hcq]
    · simp [setRequest, hcq]
    · intro other hother
      rw [hphase]
      exact hother
  · contradiction

theorem Inv.notify (h : client.Inv layout sqBase cqBase) {request : Nat}
    (hstep : client.notify request = some client') :
    client'.Inv layout sqBase cqBase := by
  unfold Client.notify at hstep
  split at hstep
  · rename_i kind submission hphase
    simp only [Option.bind_eq_bind, Option.bind_eq_some_iff] at hstep
    obtain ⟨rings, hrings, hstep⟩ := hstep
    cases hstep
    have hcounted := xgqSystem_counted.step _ _ _ h.counted hrings
    cases hrings
    refine h.move request (.polling kind submission 0) rfl hcounted rfl rfl rfl rfl rfl
      (Nat.le_refl _) ?_ (fun _ _ _ heq => by cases heq) (fun _ hpair => .inl hpair)
    intro other hother
    rw [hphase]
    exact hother
  · contradiction

theorem Inv.poll (h : client.Inv layout sqBase cqBase) {request : Nat}
    (hstep : client.poll request = some client') : client'.Inv layout sqBase cqBase := by
  unfold Client.poll at hstep
  split at hstep
  · rename_i kind submission polls hphase
    have hpair : client.rings.apply (.cq .consume) =
        some { client.rings with cq := client.rings.cq.consume } := rfl
    have hcounted := xgqSystem_counted.step _ _ _ h.counted hpair
    obtain ⟨_, _, hcounts⟩ := h.counted.2
    rcases Nat.lt_or_eq_of_le hcounts.taken_bound.1 with hsome | hempty
    · obtain ⟨_, _, _, hcall⟩ := hcounts.xgqConsume_some hsome
      obtain ⟨ring, heq, -⟩ := h.counted.2.consume_some hsome
      simp only [hcall] at hstep
      cases hstep
      refine h.move request (.taken kind submission client.rings.cq.taken) rfl hcounted
        rfl rfl rfl ?_ ?_ ?_ ?_ ?_ (fun _ hpair => .inl hpair)
      · simp [setRequest, heq]
      · simp [setRequest, heq]
      · simp [setRequest, heq]
      · intro other hother
        rw [hphase]
        exact hother
      · intro kind' submission' completion htaken
        cases htaken
        refine ⟨by simp [setRequest, heq], ?_⟩
        exact h.unread _ (Nat.le_refl _) hsome request ⟨submission, by rw [hphase]; rfl⟩
    · obtain ⟨ring, heq, -⟩ := h.counted.2.consume_empty hempty.symm
      simp only [hcounts.xgqConsume_empty hempty.symm] at hstep
      split at hstep
      · cases hstep
        refine h.move request (.polling kind submission (polls + 1)) rfl hcounted rfl rfl rfl
          ?_ ?_ ?_ ?_ (fun _ _ _ heq => by cases heq) (fun _ hpair => .inl hpair)
        · simp [setRequest, heq]
        · simp [setRequest, heq]
        · simp [setRequest, heq]
        · intro other hother
          rw [hphase]
          exact hother
      · cases hstep
        exact h.finished request hcounted rfl (by simp [heq]) (by simp [heq]) (by simp [heq])
  · contradiction

theorem Inv.interpret (h : client.Inv layout sqBase cqBase) {request : Nat}
    (hstep : client.interpret request = some client') :
    client'.Inv layout sqBase cqBase := by
  unfold Client.interpret at hstep
  split at hstep
  · rename_i kind submission completion hphase
    simp only [Option.bind_eq_bind, Option.bind_eq_some_iff] at hstep
    obtain ⟨rings, hrings, hstep⟩ := hstep
    cases hstep
    have hcounted := xgqSystem_counted.step _ _ _ h.counted hrings
    obtain ⟨hring, hsq⟩ := RingPair.apply_cq hrings
    simp only [Channel.apply, Option.ite_none_right_eq_some, Option.some.injEq,
      Prod.mk.injEq] at hring
    have htaken := h.taken request kind submission completion hphase
    refine h.move request (.interpreted kind submission) rfl hcounted rfl rfl ?_ ?_ ?_ ?_ ?_
      (fun _ _ _ heq => by cases heq) ?_
    · simp [setRequest, hsq]
    · simp [setRequest, ← hring.2.2]
    · simp [setRequest, ← hring.2.2]
    · simp [setRequest, ← hring.2.2]
    · intro other hother
      rw [hphase]
      exact hother
    · intro pair hpair
      simp only [setRequest, List.mem_append, List.mem_singleton] at hpair
      rcases hpair with hold | rfl
      · exact .inl hold
      · refine .inr ⟨?_, htaken.2⟩
        simpa [setRequest, ← hring.2.2] using htaken.1
  · contradiction

theorem Inv.finish (h : client.Inv layout sqBase cqBase) {request : Nat}
    (hstep : client.finish request = some client') : client'.Inv layout sqBase cqBase := by
  unfold Client.finish at hstep
  split at hstep
  · simp only [Option.bind_eq_bind, Option.bind_eq_some_iff] at hstep
    obtain ⟨rings, hrings, hstep⟩ := hstep
    cases hstep
    have hcounted := xgqSystem_counted.step _ _ _ h.counted hrings
    cases hrings
    exact h.finished request hcounted rfl rfl rfl (Nat.le_refl _)
  · contradiction

/-! ## Steps of the APU -/

theorem Inv.apuTake (h : client.Inv layout sqBase cqBase) {action : RingAction}
    (hstep : client.apply (.apuTake action) = some client') :
    client'.Inv layout sqBase cqBase := by
  simp only [Client.apply, Option.ite_none_right_eq_some, Option.bind_eq_bind,
    Option.bind_eq_some_iff] at hstep
  obtain ⟨hmay, rings, hrings, hstep⟩ := hstep
  cases hstep
  have hcounted := xgqSystem_counted.step _ _ _ h.counted hrings
  obtain ⟨hring, hcq⟩ := RingPair.apply_sq hrings
  have hgranted : rings.sq.granted = client.rings.sq.granted := by
    cases action with
    | produce => cases hmay
    | fill index entry => cases hmay
    | notifyProduced => cases hmay
    | consume =>
        obtain ⟨-, hsq⟩ : client.rings.memory = rings.memory ∧
            client.rings.sq.consume = rings.sq := by
          simpa [Channel.apply] using hring
        rw [← hsq, Channel.consume]
        split <;> rfl
    | read index =>
        simp only [Channel.apply, Option.ite_none_right_eq_some, Option.some.injEq,
          Prod.mk.injEq] at hring
        rw [← hring.2.2]
    | notifyConsumed =>
        simp only [Channel.apply, Option.some.injEq, Prod.mk.injEq] at hring
        rw [← hring.2]
        rfl
  exact h.rings rfl hcounted rfl rfl rfl hgranted (by rw [hcq]) (by rw [hcq]) (by rw [hcq])

theorem Inv.apuAnswer (h : client.Inv layout sqBase cqBase) {submission : Nat}
    (hstep : client.apuAnswer submission = some client') :
    client'.Inv layout sqBase cqBase := by
  unfold Client.apuAnswer at hstep
  split at hstep
  · have hpair : client.rings.apply (.cq .produce) =
        some { client.rings with cq := client.rings.cq.produce } := rfl
    have hcounted := xgqSystem_counted.step _ _ _ h.counted hpair
    obtain ⟨_, _, hcounts⟩ := h.counted.2
    rcases Nat.lt_or_eq_of_le hcounts.granted_bound.2 with hroom | hfull
    · obtain ⟨_, _, _, hcall⟩ := hcounts.xgqProduce_room hroom
      obtain ⟨ring, heq, -⟩ := h.counted.2.produce_room hroom
      simp only [hcall] at hstep
      cases hstep
      have hprefix : client.answers <+: client.answers ++ [submission] :=
        List.prefix_append _ _
      refine ⟨hcounted, h.submissions_length, ?_, h.owner, h.alone, ?_, ?_, ?_⟩
      · simp [heq, h.answers_length]
      · intro completion hlo hhi request hrequest
        simp only [heq] at hlo hhi
        exact (h.unread completion hlo hhi request hrequest).mono hprefix
          (List.prefix_refl _)
      · intro request kind submission' completion hphase
        obtain ⟨hlt, hanswer⟩ := h.taken request kind submission' completion hphase
        exact ⟨by simpa [heq] using hlt, hanswer.mono hprefix (List.prefix_refl _)⟩
      · intro request completion hmem
        obtain ⟨hlt, hanswer⟩ := h.consumed request completion hmem
        exact ⟨by simpa [heq] using hlt, hanswer.mono hprefix (List.prefix_refl _)⟩
    · obtain ⟨ring, heq, -⟩ := h.counted.2.produce_full hfull
      simp only [hcounts.xgqProduce_full hfull] at hstep
      cases hstep
      exact h.rings rfl hcounted rfl rfl rfl rfl (by simp [heq]) (by simp [heq])
        (by simp [heq])
  · contradiction

theorem Inv.apuFill (h : client.Inv layout sqBase cqBase) {completion : Nat}
    {entry : Entry} (hstep : client.apply (.apuFill completion entry) = some client') :
    client'.Inv layout sqBase cqBase := by
  simp only [Client.apply, Option.bind_eq_bind, Option.bind_eq_some_iff] at hstep
  obtain ⟨rings, hrings, hstep⟩ := hstep
  cases hstep
  have hcounted := xgqSystem_counted.step _ _ _ h.counted hrings
  obtain ⟨hring, hsq⟩ := RingPair.apply_cq hrings
  simp only [Channel.apply, Option.ite_none_right_eq_some, Option.some.injEq,
    Prod.mk.injEq] at hring
  exact h.rings rfl hcounted rfl rfl rfl (by rw [hsq]) (by simp [← hring.2.2])
    (by simp [← hring.2.2]) (by simp [← hring.2.2])

theorem Inv.apuPublish (h : client.Inv layout sqBase cqBase)
    (horderly : ClientAction.apuPublish.orderly client)
    (hstep : client.apply .apuPublish = some client') :
    client'.Inv layout sqBase cqBase := by
  simp only [Client.apply, Option.bind_eq_bind, Option.bind_eq_some_iff] at hstep
  obtain ⟨rings, hrings, hstep⟩ := hstep
  cases hstep
  have hcounted := xgqSystem_counted.step _ _ _ h.counted hrings
  cases hrings
  refine ⟨hcounted, h.submissions_length, h.answers_length, h.owner, h.alone, ?_, h.taken,
    h.consumed⟩
  intro completion hlo hhi request hrequest
  rcases Nat.lt_or_ge completion client.rings.cq.published with hold | hnew
  · exact h.unread completion hlo hold request hrequest
  · exact horderly request hrequest completion hnew hhi

theorem Inv.step (h : client.Inv layout sqBase cqBase) {action : ClientAction}
    (horderly : action.orderly client) (hstep : client.apply action = some client') :
    client'.Inv layout sqBase cqBase := by
  cases action with
  | acquireDownload =>
      simp only [Client.apply, Option.ite_none_right_eq_some] at hstep
      cases hstep.2
      exact h.rings rfl h.counted rfl rfl rfl rfl rfl rfl rfl
  | releaseDownload =>
      simp only [Client.apply, Option.ite_none_right_eq_some] at hstep
      cases hstep.2
      exact h.rings rfl h.counted rfl rfl rfl rfl rfl rfl rfl
  | begin request kind => exact h.begin hstep
  | produce request => exact h.produce horderly hstep
  | fill request payload => exact h.fill hstep
  | notify request => exact h.notify hstep
  | poll request => exact h.poll hstep
  | interpret request => exact h.interpret hstep
  | finish request => exact h.finish hstep
  | apuTake action => exact h.apuTake hstep
  | apuAnswer submission => exact h.apuAnswer hstep
  | apuFill completion entry => exact h.apuFill hstep
  | apuPublish => exact h.apuPublish horderly hstep

theorem Inv.matched (h : client.Inv layout sqBase cqBase) : client.Matched where
  own request completion hmem := (h.consumed request completion hmem).2
  slot request completion hmem := by
    obtain ⟨_, _, hcounts⟩ := h.counted.2
    have hlt := (h.consumed request completion hmem).1
    have htaken := hcounts.taken_bound.1
    have hpublished := hcounts.published_le
    rw [hcounts.takeAddr_eq completion hlt, hcounts.grantAddr_eq completion (by omega)]

end Client

private theorem clientSystem_inv (layout : XgqLayout) (sqBase cqBase : UInt32) :
    ((clientSystem layout sqBase cqBase).restrict fun client action =>
      action.orderly client).Invariant (Client.Inv layout sqBase cqBase) where
  init := by
    rintro _ ⟨memory, rfl⟩
    exact .init memory
  step := by
    rintro client action client' h ⟨horderly, hstep⟩
    exact h.step horderly hstep

/-- In every orderly run, every request takes its own answer. -/
theorem client_matched (layout : XgqLayout) (sqBase cqBase : UInt32) (client : Client)
    (h : ((clientSystem layout sqBase cqBase).restrict fun client action =>
      action.orderly client).Reachable client) : client.Matched :=
  (h.invariant (clientSystem_inv layout sqBase cqBase)).matched

/-! ## One request in time, and one too late -/

def ClientAction.request? : ClientAction → Option Nat
  | .begin request _ | .produce request | .fill request _ | .notify request => some request
  | .poll request | .interpret request | .finish request => some request
  | .acquireDownload | .releaseDownload | .apuTake _ | .apuAnswer _ | .apuFill _ _
  | .apuPublish => none

private theorem Client.apply_own {client client' : Client} {action : ClientAction} {request : Nat}
    (hstep : client.apply action = some client') (hown : action.request? = some request) :
    ∃ phase, client'.request = Function.update client.request request phase := by
  cases action with
  | begin own kind =>
      cases hown
      simp only [Client.apply, Client.begin] at hstep
      split at hstep <;> cases hstep <;> exact ⟨_, rfl⟩
  | produce own =>
      cases hown
      simp only [Client.apply, Client.produce] at hstep
      split at hstep
      · split at hstep <;> cases hstep <;> simp [setRequest]
      · contradiction
  | fill own payload =>
      cases hown
      simp only [Client.apply, Client.fill] at hstep
      split at hstep
      · simp only [Option.bind_eq_bind, Option.bind_eq_some_iff] at hstep
        obtain ⟨rings, -, hstep⟩ := hstep
        cases hstep
        exact ⟨_, rfl⟩
      · contradiction
  | notify own =>
      cases hown
      simp only [Client.apply, Client.notify] at hstep
      split at hstep
      · simp only [Option.bind_eq_bind, Option.bind_eq_some_iff] at hstep
        obtain ⟨rings, -, hstep⟩ := hstep
        cases hstep
        exact ⟨_, rfl⟩
      · contradiction
  | poll own =>
      cases hown
      simp only [Client.apply, Client.poll] at hstep
      split at hstep
      · split at hstep
        · cases hstep
          exact ⟨_, rfl⟩
        · split at hstep <;> cases hstep <;> simp [setRequest]
      · contradiction
  | interpret own =>
      cases hown
      simp only [Client.apply, Client.interpret] at hstep
      split at hstep
      · simp only [Option.bind_eq_bind, Option.bind_eq_some_iff] at hstep
        obtain ⟨rings, -, hstep⟩ := hstep
        cases hstep
        exact ⟨_, rfl⟩
      · contradiction
  | finish own =>
      cases hown
      simp only [Client.apply, Client.finish] at hstep
      split at hstep
      · simp only [Option.bind_eq_bind, Option.bind_eq_some_iff] at hstep
        obtain ⟨rings, -, hstep⟩ := hstep
        cases hstep
        simp [setRequest]
      · contradiction
  | _ => cases hown

theorem Client.apply_frame {client client' : Client} {action : ClientAction}
    (hstep : client.apply action = some client') (hnone : action.request? = none) :
    client'.request = client.request := by
  cases action with
  | acquireDownload =>
      simp only [Client.apply, Option.ite_none_right_eq_some] at hstep
      cases hstep.2
      rfl
  | releaseDownload =>
      simp only [Client.apply, Option.ite_none_right_eq_some] at hstep
      cases hstep.2
      rfl
  | apuTake action =>
      simp only [Client.apply, Option.ite_none_right_eq_some, Option.bind_eq_bind,
        Option.bind_eq_some_iff] at hstep
      obtain ⟨-, rings, -, hstep⟩ := hstep
      cases hstep
      rfl
  | apuAnswer submission =>
      simp only [Client.apply, Client.apuAnswer] at hstep
      split at hstep
      · split at hstep <;> cases hstep <;> rfl
      · contradiction
  | apuFill completion entry =>
      simp only [Client.apply, Option.bind_eq_bind, Option.bind_eq_some_iff] at hstep
      obtain ⟨rings, -, hstep⟩ := hstep
      cases hstep
      rfl
  | apuPublish =>
      simp only [Client.apply, Option.bind_eq_bind, Option.bind_eq_some_iff] at hstep
      obtain ⟨rings, -, hstep⟩ := hstep
      cases hstep
      rfl
  | _ => cases hnone

private theorem Client.apply_request {client client' : Client} {action : ClientAction}
    (hstep : client.apply action = some client') {other : Nat}
    (hother : action.request? ≠ some other) :
    client'.request other = client.request other := by
  cases hown : action.request? with
  | none => rw [Client.apply_frame hstep hown]
  | some request =>
      obtain ⟨phase, hphase⟩ := Client.apply_own hstep hown
      have hne : other ≠ request := fun heq => hother (by rw [hown, heq])
      rw [hphase, Function.update_of_ne hne]

def ClientAction.soloOrderly (client : Client) : ClientAction → Bool
  | .produce _ => client.rings.cq.published == client.rings.cq.taken &&
      (client.request 0).submission? == none
  | .apuPublish => (List.range client.rings.cq.granted).all fun completion =>
      completion < client.rings.cq.published ||
        (client.answers[completion]?.bind fun submission =>
          client.submissions[submission]?) == some 0
  | _ => true

private theorem ClientAction.orderly_of_solo {client : Client} {action : ClientAction}
    (hothers : ∀ other ≠ 0, client.request other = .unborn)
    (h : action.soloOrderly client = true) : action.orderly client := by
  have solo : ∀ other, client.InProgress other → other = 0 := by
    rintro other ⟨submission, hother⟩
    by_contra hne
    rw [hothers other hne] at hother
    cases hother
  cases action with
  | produce request =>
      simp only [soloOrderly, Bool.and_eq_true, beq_iff_eq] at h
      refine ⟨h.1, fun other hother => ?_⟩
      obtain ⟨submission, hsub⟩ := hother
      rw [solo other ⟨submission, hsub⟩, h.2] at hsub
      cases hsub
  | apuPublish =>
      intro request hrequest completion hlo hhi
      rw [solo request hrequest]
      simp only [soloOrderly, List.all_eq_true, List.mem_range, Bool.or_eq_true,
        decide_eq_true_eq, beq_iff_eq, Option.bind_eq_some_iff] at h
      rcases h completion hhi with hlt | hanswer
      · omega
      · exact hanswer
  | _ => trivial

/-- Steps of request `0` and of the APU, stopping where they would not be orderly. -/
def Client.applySolo (client : Client) (action : ClientAction) : Option Client :=
  if action.soloOrderly client && action.request?.all (· == 0) then client.apply action
  else none

private theorem Client.applySolo_step {client client' : Client} {action : ClientAction}
    (hothers : ∀ other ≠ 0, client.request other = .unborn)
    (h : client.applySolo action = some client') :
    (action.orderly client ∧ client.apply action = some client') ∧
      ∀ other ≠ 0, client'.request other = .unborn := by
  simp only [applySolo, Option.ite_none_right_eq_some, Bool.and_eq_true] at h
  obtain ⟨⟨horderly, hown⟩, hstep⟩ := h
  refine ⟨⟨ClientAction.orderly_of_solo hothers horderly, hstep⟩, ?_⟩
  intro other hne
  rw [Client.apply_request hstep, hothers other hne]
  intro hrequest
  simp [hrequest, hne] at hown

def submitRequest (request submission : Nat) (kind : RequestKind) : List ClientAction :=
  [.begin request kind, .produce request, .fill request (fun _ => 0), .notify request,
    .apuTake .consume, .apuTake (.read submission), .apuTake .notifyConsumed]

def answerSubmission (submission completion : Nat) : List ClientAction :=
  [.apuAnswer submission, .apuFill completion (fun _ => 0), .apuPublish]

def startClient : Client :=
  .init (.init (rpuLayout 0x37001000 (by decide)) (fun _ => 0) 0 0)

def answeredInTime : Option Client :=
  TransitionSystem.runLabels Client.applySolo
    (submitRequest 0 0 .identify ++ answerSubmission 0 0 ++
      [.poll 0, .interpret 0, .finish 0]) startClient

theorem client_matched_in_time :
    answeredInTime.map (fun client => client.consumed) = some [(0, 0)] ∧
      ∀ client, answeredInTime = some client → client.Matched := by
  refine ⟨by decide +kernel, fun client h => ?_⟩
  exact client_matched (rpuLayout 0x37001000 (by decide)) 0 0 client
    (.runLabels (fun _ _ _ hothers hstep => Client.applySolo_step hothers hstep)
      (.init ⟨fun _ => 0, rfl⟩) (fun _ _ => rfl) h)

def answeredLate : Option Client :=
  TransitionSystem.runLabels Client.apply
    (submitRequest 0 0 .identify ++ List.replicate apuXgqTimeout (.poll 0) ++
      answerSubmission 0 0 ++ submitRequest 1 1 .logPage ++ [.poll 1, .interpret 1])
    startClient

theorem client_not_matched :
    ¬ ∀ (layout : XgqLayout) (sqBase cqBase : UInt32) (client : Client),
      (clientSystem layout sqBase cqBase).Reachable client → client.Matched := by
  intro hall
  have hlists : answeredLate.map (fun client =>
      (client.consumed, client.answers, client.submissions)) =
        some ([(1, 0)], [0], [0, 1]) := by
    decide +kernel
  cases hrun : answeredLate with
  | none => simp [hrun] at hlists
  | some client =>
      simp only [hrun, Option.map_some, Option.some.injEq, Prod.mk.injEq] at hlists
      obtain ⟨hconsumed, hanswers, hsubmissions⟩ := hlists
      have hreach : (clientSystem (rpuLayout 0x37001000 (by decide)) 0 0).Reachable client :=
        .runLabels (fun _ _ _ _ hstep => ⟨hstep, trivial⟩) (.init ⟨fun _ => 0, rfl⟩)
          trivial hrun
      obtain ⟨submission, hanswer, howner⟩ :=
        (hall _ 0 0 client hreach).own 1 0 (by simp [hconsumed])
      rw [hanswers] at hanswer
      obtain rfl : 0 = submission := by simpa using hanswer
      rw [hsubmissions] at howner
      simp at howner

end Vmr.Xgq
