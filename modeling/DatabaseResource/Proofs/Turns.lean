import DatabaseResource.Proofs.Phase

/-!
# Requests in turn

Requests that are dispatched one after the other with one provisioner. Each create takes one turn of
the provisioner, and nothing else does: the turns are those that the provisioner would take if it
were asked again and again and no other request were there (`Provisioner.turn`). So every create is
answered from the outcome of its own turn, whatever stands between the creates
(`creates_are_answered_in_turn`).
-/

namespace DatabaseResource

open Activity

/-- Dispatches requests one after the other. -/
def dispatchAll (provisioner : Provisioner) :
    List Request → Activity (List (Except Fault Response))
  | [] => return []
  | r :: rest => do
    let a ← dispatch r provisioner
    return a :: (← dispatchAll provisioner rest)

/-- How many of the requests are creates. -/
def creates (requests : List Request) : Nat := requests.countP (·.requestType = .create)

/-! ### Turns of a provisioner -/

@[simp] theorem provisionings_append (a b : List Event) :
    provisionings (a ++ b) = provisionings a + provisionings b := List.count_append

@[simp] theorem provisionings_cons_provisioning (events : List Event) :
    provisionings (.provisioning :: events) = provisionings events + 1 := List.count_cons_self

namespace Provisioner

variable (p : Provisioner) (m : Moment)

/-- The moment behind a number of turns. -/
def behindTurns : Nat → Moment
  | 0 => m
  | k + 1 =>
    let asked := (behindTurns k).after [.event .provisioning]
    asked.after (p asked).steps

/-- What the provisioner does when it is asked behind a number of turns. -/
def turn (k : Nat) : Run (Except Fault Provisioned) :=
  p ((p.behindTurns m k).after [.event .provisioning])

/-- The steps of a turn: the provisioner is asked, and does what it does. -/
def turnSteps (k : Nat) : List Step := .event .provisioning :: (p.turn m k).steps

theorem behindTurns_succ (k : Nat) :
    p.behindTurns m (k + 1) = (p.behindTurns m k).after (p.turnSteps m k) := by
  rw [turnSteps, ← List.singleton_append, Moment.after_append]
  rfl

/-- The steps of some turns, the first of them behind `k` others. -/
def turnsFrom (k n : Nat) : List Step := (List.range' k n).flatMap (p.turnSteps m)

@[simp] theorem turnsFrom_zero (k : Nat) : p.turnsFrom m k 0 = [] := rfl

@[simp] theorem turnsFrom_one (k : Nat) : p.turnsFrom m k 1 = p.turnSteps m k := by
  simp [turnsFrom]

theorem turnsFrom_add (k n n' : Nat) :
    p.turnsFrom m k (n + n') = p.turnsFrom m k n ++ p.turnsFrom m (k + n) n' := by
  rw [turnsFrom, ← List.range'_append_1, List.flatMap_append]
  rfl

theorem behindTurns_add (k n : Nat) :
    p.behindTurns m (k + n) = (p.behindTurns m k).after (p.turnsFrom m k n) := by
  induction n with
  | zero => exact (Moment.after_nil _).symm
  | succ n ih =>
    rw [← Nat.add_assoc, p.behindTurns_succ, ih, turnsFrom_add, turnsFrom_one, Moment.after_append]

/-- What comes of a turn. -/
def turnOutcome (k : Nat) : Option (Except Fault Provisioned) := (p.turn m k).result

theorem provisionings_eq_zero {p : Provisioner} (h : Emits (· ≠ .provisioning) p) (m : Moment) :
    provisionings (eventsOf (p m).steps) = 0 := by
  apply List.count_eq_zero_of_not_mem
  intro hmem
  exact h m _ hmem rfl

/-- A provisioner that does not ask one is asked once in every turn. -/
theorem provisionings_turnsFrom {p : Provisioner} (h : Emits (· ≠ .provisioning) p) (k n : Nat) :
    provisionings (eventsOf (p.turnsFrom m k n)) = n := by
  induction n with
  | zero => rfl
  | succ n ih =>
    rw [turnsFrom_add, turnsFrom_one, eventsOf_append, provisionings_append, ih]
    rw [turnSteps, eventsOf_cons_event, provisionings_cons_provisioning, turn,
      provisionings_eq_zero h]

theorem inTurn_apply (outcomes : List Outcome) :
    inTurn outcomes m
      = match outcomes[min (provisionings m.events - 1) (outcomes.length - 1)]? with
        | none => ⟨[], none⟩
        | some o => ⟨waitSteps o.delay, some o.result⟩ := by
  unfold inTurn
  rw [moment_bind_apply]
  cases outcomes[min (provisionings m.events - 1) (outcomes.length - 1)]? with
  | none => rfl
  | some o =>
    dsimp only
    rw [sleep_bind_apply, pure_apply, Run.prepend_mk, List.append_nil]

theorem eventsOf_inTurn (outcomes : List Outcome) : eventsOf (inTurn outcomes m).steps = [] := by
  rw [inTurn_apply]
  cases outcomes[min (provisionings m.events - 1) (outcomes.length - 1)]? with
  | none => rfl
  | some o => exact eventsOf_waitSteps o.delay

/-- Behind a number of turns the outcomes have been asked for as often. -/
theorem provisionings_behindTurns_inTurn {m : Moment} (hm : provisionings m.events = 0)
    (outcomes : List Outcome) (k : Nat) :
    provisionings ((inTurn outcomes).behindTurns m k).events = k := by
  have hquiet : Emits (· ≠ .provisioning) (inTurn outcomes) := by
    intro m' e he
    rw [eventsOf_inTurn] at he
    exact absurd he List.not_mem_nil
  have hbehind := (inTurn outcomes).behindTurns_add m 0 k
  rw [Nat.zero_add, behindTurns] at hbehind
  rw [hbehind, Moment.after_events, provisionings_append, hm, provisionings_turnsFrom m hquiet,
    Nat.zero_add]

/-- Given outcomes are those of the turns, as far as they reach. -/
theorem turnOutcome_inTurn {m : Moment} (hm : provisionings m.events = 0)
    {outcomes : List Outcome} {k : Nat} {o : Outcome} (h : outcomes[k]? = some o) :
    (inTurn outcomes).turnOutcome m k = some o.result := by
  obtain ⟨hk, -⟩ := List.getElem?_eq_some_iff.mp h
  have hasked : provisionings (((inTurn outcomes).behindTurns m k).after
      [.event .provisioning]).events = k + 1 := by
    rw [Moment.after_events, provisionings_append, provisionings_behindTurns_inTurn hm outcomes k]
    rfl
  have hplace : min (k + 1 - 1) (outcomes.length - 1) = k := by omega
  rw [turnOutcome, turn, inTurn_apply, hasked, hplace, h]

end Provisioner

/-! ### Answers -/

/-- How a request is answered behind a number of creates, where the provisioner's turns have
outcomes: a create from the outcome of its turn, and anything else from the request alone. -/
inductive AnsweredBy (outcome : Nat → Option (Except Fault Provisioned)) (before : Nat)
    (r : Request) : Except Fault Response → Prop where
  | provided {p : Provisioned} (type : r.requestType = .create)
      (outcome_eq : outcome before = some (.ok p)) :
      AnsweredBy outcome before r (.ok (.success r p.physicalResourceId p.data))
  | refused {fault} (type : r.requestType = .create)
      (outcome_eq : outcome before = some (.error fault)) :
      AnsweredBy outcome before r (.error fault)
  | update (type : r.requestType = .update) : AnsweredBy outcome before r (.ok (.acknowledged r))
  | delete (type : r.requestType = .delete) : AnsweredBy outcome before r (.ok (.acknowledged r))
  | other {text} (type : r.requestType = .other text) :
      AnsweredBy outcome before r (.error (.unsupportedRequestType text))

namespace AnsweredBy

variable {outcome : Nat → Option (Except Fault Provisioned)} {n n' : Nat} {r : Request}
  {a a' : Except Fault Response}

/-- The answer to anything but a create does not mind how many creates were before. -/
theorem unique (h : AnsweredBy outcome n r a) (h' : AnsweredBy outcome n' r a')
    (hcreate : r.requestType = .create → n = n') : a = a' := by
  cases h with
  | provided type outcome_eq =>
    cases hcreate type
    cases h' with
    | provided _ outcome_eq' =>
      cases outcome_eq.symm.trans outcome_eq'
      rfl
    | refused _ outcome_eq' => cases outcome_eq.symm.trans outcome_eq'
    | update type' | delete type' | other type' => cases type.symm.trans type'
  | refused type outcome_eq =>
    cases hcreate type
    cases h' with
    | provided _ outcome_eq' => cases outcome_eq.symm.trans outcome_eq'
    | refused _ outcome_eq' =>
      cases outcome_eq.symm.trans outcome_eq'
      rfl
    | update type' | delete type' | other type' => cases type.symm.trans type'
  | update type =>
    cases h' with
    | update => rfl
    | provided type' | refused type' | delete type' | other type' => cases type.symm.trans type'
  | delete type =>
    cases h' with
    | delete => rfl
    | provided type' | refused type' | update type' | other type' => cases type.symm.trans type'
  | other type =>
    cases h' with
    | other type' =>
      cases type.symm.trans type'
      rfl
    | provided type' | refused type' | update type' | delete type' => cases type.symm.trans type'

/-- What is answered without a fault is a success: of a create with what was provided, of anything
else without data. -/
theorem success {response : Response} (h : AnsweredBy outcome n r (.ok response)) :
    response.status = .success ∧
      ((∃ provided, r.requestType = .create ∧ outcome n = some (.ok provided) ∧
          response.physicalResourceId = provided.physicalResourceId ∧
          response.data = provided.data) ∨
        (r.requestType = .update ∨ r.requestType = .delete) ∧ response.data = []) := by
  cases h with
  | provided type outcome_eq => exact ⟨rfl, .inl ⟨_, type, outcome_eq, rfl, rfl⟩⟩
  | update type => exact ⟨rfl, .inr ⟨.inl type, rfl⟩⟩
  | delete type => exact ⟨rfl, .inr ⟨.inr type, rfl⟩⟩

end AnsweredBy

/-! ### One turn for every create -/

section Turns

variable (p : Provisioner) (m : Moment)

theorem creates_cons (r : Request) (rest : List Request) :
    creates (r :: rest) = creates [r] + creates rest := by
  rw [← List.singleton_append, creates, List.countP_append]
  rfl

theorem creates_singleton (r : Request) :
    r.requestType = .create ∧ creates [r] = 1 ∨ r.requestType ≠ .create ∧ creates [r] = 0 := by
  by_cases h : r.requestType = .create
  · exact .inl ⟨h, by simp [creates, h]⟩
  · exact .inr ⟨h, by simp [creates, h]⟩

/-- A dispatch asks the provisioner once for a create, and otherwise not at all. -/
theorem provisionings_dispatch {p : Provisioner} (h : Emits (· ≠ .provisioning) p) (r : Request) :
    provisionings (eventsOf (dispatch r p m).steps) = creates [r] := by
  unfold dispatch
  cases htype : r.requestType with
  | create =>
    dsimp only
    rw [answerCreate_apply, eventsOf_cons_event, provisionings_cons_provisioning,
      Provisioner.provisionings_eq_zero h]
    simp [creates, htype]
  | update | delete | other => simp [provisionings, creates, htype]

/-- A create takes a turn and is answered from its outcome; nothing else takes one. -/
theorem dispatch_answers {r : Request} {k : Nat}
    (h : r.requestType = .create → p.turnOutcome m k ≠ none) :
    ∃ a, dispatch r p (p.behindTurns m k) = ⟨p.turnsFrom m k (creates [r]), some a⟩ ∧
      AnsweredBy (p.turnOutcome m) k r a := by
  unfold dispatch
  cases htype : r.requestType with
  | create =>
    obtain ⟨outcome, houtcome⟩ := Option.ne_none_iff_exists'.mp (h htype)
    have hone : creates [r] = 1 := by simp [creates, htype]
    have hrun : answerCreate r p (p.behindTurns m k)
        = ⟨p.turnSteps m k, (p.turnOutcome m k).map (answerFrom r)⟩ :=
      answerCreate_apply r p (p.behindTurns m k)
    rw [houtcome] at hrun
    refine ⟨answerFrom r outcome, ?_, ?_⟩
    · rw [hone, p.turnsFrom_one]
      exact hrun
    · cases outcome with
      | ok provided => exact .provided htype houtcome
      | error fault => exact .refused htype houtcome
  | update => exact ⟨_, by simp [creates, htype], .update htype⟩
  | delete => exact ⟨_, by simp [creates, htype], .delete htype⟩
  | other text => exact ⟨_, by simp [creates, htype], .other htype⟩

/-- A create whose turn never ends is never answered. -/
theorem dispatch_silent {r : Request} {k : Nat} (htype : r.requestType = .create)
    (h : p.turnOutcome m k = none) :
    dispatch r p (p.behindTurns m k) = ⟨p.turnsFrom m k 1, none⟩ := by
  have hrun : answerCreate r p (p.behindTurns m k)
      = ⟨p.turnSteps m k, (p.turnOutcome m k).map (answerFrom r)⟩ :=
    answerCreate_apply r p (p.behindTurns m k)
  rw [h] at hrun
  rw [dispatch_of_create htype, p.turnsFrom_one]
  exact hrun

/-- Requests are all answered if all their turns end. -/
theorem dispatchAll_answers (requests : List Request) (k : Nat)
    (h : ∀ j < creates requests, p.turnOutcome m (k + j) ≠ none) :
    ∃ answers, dispatchAll p requests (p.behindTurns m k)
        = ⟨p.turnsFrom m k (creates requests), some answers⟩ ∧
      answers.length = requests.length ∧
      ∀ i r, requests[i]? = some r → ∃ a, answers[i]? = some a ∧
        AnsweredBy (p.turnOutcome m) (k + creates (requests.take i)) r a := by
  induction requests generalizing k with
  | nil => exact ⟨[], by simp [dispatchAll, creates], rfl, by simp⟩
  | cons r rest ih =>
    have hcount := creates_cons r rest
    have hfirst : r.requestType = .create → p.turnOutcome m k ≠ none := by
      intro htype
      rcases creates_singleton r with ⟨-, hone⟩ | ⟨hne, -⟩
      · exact h 0 (by omega)
      · exact absurd htype hne
    have hrest : ∀ j < creates rest, p.turnOutcome m (k + creates [r] + j) ≠ none := by
      intro j hj
      rw [Nat.add_assoc]
      exact h _ (by omega)
    obtain ⟨a, hrun, hanswered⟩ := dispatch_answers p m hfirst
    obtain ⟨answers, hrunRest, hlength, hrestAnswered⟩ := ih (k + creates [r]) hrest
    rw [p.behindTurns_add] at hrunRest
    refine ⟨a :: answers, ?_, by simp [hlength], ?_⟩
    · unfold dispatchAll
      rw [bind_of_apply_eq hrun, bind_of_apply_eq hrunRest, hcount, p.turnsFrom_add]
      rw [pure_apply, Run.prepend_mk, Run.prepend_mk, List.append_nil]
    · intro i r' hr'
      cases i with
      | zero =>
        cases hr'
        exact ⟨a, rfl, hanswered⟩
      | succ i =>
        obtain ⟨a', ha', hanswered'⟩ := hrestAnswered i r' hr'
        refine ⟨a', ha', ?_⟩
        rw [List.take_succ_cons, creates_cons, ← Nat.add_assoc]
        exact hanswered'

/-- The first turn that never ends is the last thing that happens. -/
theorem dispatchAll_silent (requests : List Request) (k j : Nat) (hj : j < creates requests)
    (hsilent : p.turnOutcome m (k + j) = none)
    (hbefore : ∀ i < j, p.turnOutcome m (k + i) ≠ none) :
    dispatchAll p requests (p.behindTurns m k) = ⟨p.turnsFrom m k (j + 1), none⟩ := by
  induction requests generalizing k j with
  | nil => exact absurd hj (Nat.not_lt_zero j)
  | cons r rest ih =>
    rw [creates_cons] at hj
    unfold dispatchAll
    rcases creates_singleton r with ⟨htype, hone⟩ | ⟨htype, hnone⟩
    · cases j with
      | zero =>
        have hrun := dispatch_silent p m (k := k) htype hsilent
        rw [bind_apply_of_none (by rw [hrun]), hrun]
      | succ j =>
        obtain ⟨a, hrun, -⟩ := dispatch_answers p m (r := r) (k := k) fun _ =>
          hbefore 0 (Nat.succ_pos j)
        have hnext : p.turnOutcome m (k + 1 + j) = none := by
          rwa [Nat.add_assoc, Nat.add_comm 1]
        have hrest := ih (k + 1) j (by omega) hnext fun i hi => by
          rw [Nat.add_assoc, Nat.add_comm 1]
          exact hbefore (i + 1) (Nat.succ_lt_succ hi)
        rw [hone] at hrun
        rw [p.behindTurns_add] at hrest
        rw [bind_of_apply_eq hrun, bind_apply_of_none (by rw [hrest]), hrest, Run.prepend_mk]
        rw [← p.turnsFrom_add, Nat.add_comm 1]
    · obtain ⟨a, hrun, -⟩ := dispatch_answers p m (r := r) (k := k) fun hcreate =>
        absurd hcreate htype
      have hrest := ih k j (by omega) hsilent hbefore
      rw [hnone] at hrun
      have hnothing : p.turnsFrom m k 0 = [] := rfl
      rw [bind_of_apply_eq hrun, hnothing, Moment.after_nil, Run.prepend_nil,
        bind_apply_of_none (by rw [hrest]), hrest]

/-- Either all turns end, or there is a first one that does not. -/
theorem turns_cases (n : Nat) :
    (∀ k < n, p.turnOutcome m k ≠ none) ∨
      ∃ k < n, p.turnOutcome m k = none ∧ ∀ j < k, p.turnOutcome m j ≠ none := by
  induction n with
  | zero => exact .inl nofun
  | succ n ih =>
    rcases ih with hall | ⟨k, hk, hfirst⟩
    · by_cases hn : p.turnOutcome m n = none
      · exact .inr ⟨n, Nat.lt_succ_self n, hn, hall⟩
      · apply Or.inl
        intro k hk
        rcases Nat.lt_succ_iff_lt_or_eq.mp hk with hlt | rfl
        · exact hall k hlt
        · exact hn
    · exact .inr ⟨k, Nat.lt_succ_of_lt hk, hfirst⟩

/-- Requests are all answered if all their turns end from the first on. -/
theorem dispatchAll_of_turns {requests : List Request}
    (h : ∀ k < creates requests, p.turnOutcome m k ≠ none) :
    ∃ answers, dispatchAll p requests m
        = ⟨p.turnsFrom m 0 (creates requests), some answers⟩ ∧
      answers.length = requests.length ∧
      ∀ i r, requests[i]? = some r → ∃ a, answers[i]? = some a ∧
        AnsweredBy (p.turnOutcome m) (creates (requests.take i)) r a := by
  simpa [Provisioner.behindTurns] using
    dispatchAll_answers p m requests 0 (by simpa using h)

theorem dispatchAll_of_silent {requests : List Request} {k : Nat} (hk : k < creates requests)
    (hsilent : p.turnOutcome m k = none) (hbefore : ∀ j < k, p.turnOutcome m j ≠ none) :
    dispatchAll p requests m = ⟨p.turnsFrom m 0 (k + 1), none⟩ := by
  have hrun := dispatchAll_silent p m requests 0 k hk (by simpa using hsilent)
    (by simpa using hbefore)
  rwa [Provisioner.behindTurns] at hrun

/-- Lists with as many creates take the same steps, and are both answered or both not. -/
theorem dispatchAll_of_creates_eq {requests requests' : List Request}
    (h : creates requests' = creates requests) :
    (dispatchAll p requests' m).steps = (dispatchAll p requests m).steps ∧
      ((dispatchAll p requests' m).result = none ↔ (dispatchAll p requests m).result = none) := by
  rcases turns_cases p m (creates requests) with hall | ⟨k, hk, hsilent, hbefore⟩
  · obtain ⟨answers, heq, -⟩ := dispatchAll_of_turns p m hall
    obtain ⟨answers', heq', -⟩ := dispatchAll_of_turns p m (h.symm ▸ hall)
    simp [heq, heq', h]
  · have heq := dispatchAll_of_silent p m hk hsilent hbefore
    have heq' := dispatchAll_of_silent p m (h.symm ▸ hk) hsilent hbefore
    simp [heq, heq']

/-- The answers to a list whose creates are all answered. -/
theorem answeredBy_of_dispatchAll {requests : List Request} {answers : List (Except Fault Response)}
    (h : (dispatchAll p requests m).result = some answers) {i : Nat} {r : Request}
    (hr : requests[i]? = some r) :
    ∃ a, answers[i]? = some a ∧
      AnsweredBy (p.turnOutcome m) (creates (requests.take i)) r a := by
  rcases turns_cases p m (creates requests) with hall | ⟨k, hk, hsilent, hbefore⟩
  · obtain ⟨answers', heq, -, hanswered⟩ := dispatchAll_of_turns p m hall
    rw [heq] at h
    cases h
    exact hanswered i r hr
  · rw [dispatchAll_of_silent p m hk hsilent hbefore] at h
    cases h

/-- **Creates are answered in turn.** Where all turns end, all requests are answered, in order:
each create from the outcome of the turn that as many creates were before, and every other request
from itself alone. The turns are all that happens, and where one never ends it is the last.
A dispatch asks the provisioner once for a create and never for another request. A success has the
id and the data that were provided, or no data where there was nothing to do. So lists with as many
creates take the same steps, and answer alike what is the same request behind as many creates, or
is no create, whatever else is put in, left out or moved. Where outcomes are given, the turns have
these outcomes. -/
theorem creates_are_answered_in_turn (requests : List Request) :
    ((∀ k < creates requests, p.turnOutcome m k ≠ none) →
      ∃ answers, dispatchAll p requests m
          = ⟨p.turnsFrom m 0 (creates requests), some answers⟩ ∧
        answers.length = requests.length ∧
        ∀ i r, requests[i]? = some r → ∃ a, answers[i]? = some a ∧
          AnsweredBy (p.turnOutcome m) (creates (requests.take i)) r a) ∧
    (∀ k < creates requests, p.turnOutcome m k = none → (∀ j < k, p.turnOutcome m j ≠ none) →
      dispatchAll p requests m = ⟨p.turnsFrom m 0 (k + 1), none⟩) ∧
    (Emits (· ≠ .provisioning) p →
      (∀ r m', provisionings (eventsOf (dispatch r p m').steps)
        = if r.requestType = .create then 1 else 0) ∧
      ∀ n, provisionings (eventsOf (p.turnsFrom m 0 n)) = n) ∧
    (∀ k r response, AnsweredBy (p.turnOutcome m) k r (.ok response) →
      response.status = .success ∧
        ((∃ provided, r.requestType = .create ∧ p.turnOutcome m k = some (.ok provided) ∧
            response.physicalResourceId = provided.physicalResourceId ∧
            response.data = provided.data) ∨
          (r.requestType = .update ∨ r.requestType = .delete) ∧ response.data = [])) ∧
    (∀ requests', creates requests' = creates requests →
      (dispatchAll p requests' m).steps = (dispatchAll p requests m).steps ∧
      ((dispatchAll p requests' m).result = none ↔ (dispatchAll p requests m).result = none)) ∧
    (∀ answers requests' answers', (dispatchAll p requests m).result = some answers →
      (dispatchAll p requests' m).result = some answers' →
      ∀ i i' r, requests[i]? = some r → requests'[i']? = some r →
        (r.requestType = .create → creates (requests.take i) = creates (requests'.take i')) →
        answers[i]? = answers'[i']?) ∧
    ∀ outcomes, provisionings m.events = 0 → ∀ k o, outcomes[k]? = some o →
      (Provisioner.inTurn outcomes).turnOutcome m k = some o.result := by
  refine ⟨dispatchAll_of_turns p m, fun k => dispatchAll_of_silent p m, ?_, ?_, ?_, ?_, ?_⟩
  · intro hquiet
    refine ⟨?_, fun n => Provisioner.provisionings_turnsFrom m hquiet 0 n⟩
    intro r m'
    rw [provisionings_dispatch m' hquiet]
    simp [creates, List.countP_cons]
  · exact fun _ _ _ h => h.success
  · intro requests' h
    exact dispatchAll_of_creates_eq p m h
  · intro answers requests' answers' hanswers hanswers' i i' r hr hr' hcreates
    obtain ⟨a, ha, hby⟩ := answeredBy_of_dispatchAll p m hanswers hr
    obtain ⟨a', ha', hby'⟩ := answeredBy_of_dispatchAll p m hanswers' hr'
    rw [ha, ha', hby.unique hby' hcreates]
  · intro outcomes hm k o h
    exact Provisioner.turnOutcome_inTurn hm h

end Turns

end DatabaseResource
