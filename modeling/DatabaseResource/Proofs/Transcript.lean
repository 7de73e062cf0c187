import DatabaseResource.Proofs.Initialisation

/-!
# What the database server sees of a bootstrap

What an activity sends, by what comes of it (`Activity.Sends`), and from it what a conversation over
one connection can look like (`Database.Converses`): a beginning of an opening, one query and the
polite end, or of that up to where the server hangs up. Whenever one looks, a bootstrap is one such
conversation, or a first one that went well and a second one (`Bootstraps`). What follows about
connections, startups and queries is `bootstrap_traffic`.
-/

namespace DatabaseResource

namespace Activity

variable {α β : Type}

/-- What comes first never ends, or what follows begins where it ends. -/
theorem bind_cases (x : Activity α) (f : α → Activity β) (m : Moment) :
    (x m).result = none ∧ (x >>= f) m = ⟨(x m).steps, none⟩ ∨
    ∃ a, (x m).result = some a ∧
      (x >>= f) m = (f a (m.after (x m).steps)).prepend (x m).steps := by
  cases hr : (x m).result with
  | none => exact .inl ⟨rfl, bind_apply_of_none hr⟩
  | some a => exact .inr ⟨a, rfl, bind_apply_of_some hr⟩

/-- Whatever comes of an activity, what it sends to the database server until then satisfies `P`. -/
def Sends (P : Option α → List Database.Traffic → Prop) (x : Activity α) : Prop :=
  ∀ m, P (x m).result (traffic (eventsOf (x m).steps))

namespace Sends

variable {P : Option α → List Database.Traffic → Prop} {Q : Option β → List Database.Traffic → Prop}
  {x : Activity α} {f : α → Activity β}

protected theorem pure {a : α} (h : P (some a) []) : Sends P (pure a) := fun _ => h

protected theorem bind (hx : Sends P x) (hnone : ∀ s, P none s → Q none s)
    (hf : ∀ a s, P (some a) s → Sends (fun r s' => Q r (s ++ s')) (f a)) : Sends Q (x >>= f) := by
  intro m
  have hm := hx m
  rcases bind_cases x f m with ⟨hr, hrun⟩ | ⟨a, hr, hrun⟩
  · rw [hrun]
    exact hnone _ (hr ▸ hm)
  · rw [hrun, Run.prepend_steps, eventsOf_append, traffic_append]
    exact hf a _ (hr ▸ hm) _

theorem mono {P' : Option α → List Database.Traffic → Prop} (hx : Sends P x)
    (h : ∀ r s, P r s → P' r s) : Sends P' x := fun m => h _ _ (hx m)

/-- What says nothing more and ends adds nothing. -/
theorem bind_quiet {L K : List Database.Traffic → Prop}
    (hx : Sends (fun r s => L s ∧ (r ≠ none → K s)) x)
    (hf : ∀ a, Sends (fun _ s => s = []) (f a)) :
    Sends (fun r s => L s ∧ (r ≠ none → K s)) (x >>= f) := by
  refine hx.bind (fun s hs => ⟨hs.1, (absurd rfl ·)⟩) fun a s hs => (hf a).mono fun r s' hs' => ?_
  rw [hs', List.append_nil]
  exact ⟨hs.1, fun _ => hs.2 nofun⟩

end Sends

end Activity

open Activity

namespace Database

variable {server : Server} {target : Target} {mode : SslMode} {text : String}
  {full sent past : List Traffic} {time : Nat}

/-! ### What a conversation looks like -/

/-- The traffic of a connection that is established, with or without the wish for a secured one and
the password. -/
inductive Opens (target : Target) : List Traffic → Prop where
  | mk {asked given} (asked_eq : asked = [] ∨ asked = [.sslRequest])
      (given_eq : given = [] ∨ given = [.password target.password]) :
      Opens target ([.dialled target.host target.port, .connected] ++ asked
        ++ .startup target.username target.database :: given)

/-- A beginning of some traffic, or one behind which the server hangs up. -/
inductive Begins (full : List Traffic) : List Traffic → Prop where
  | speaking {said} (beginning : said <+: full) : Begins full said
  | hungUp {said} (beginning : said <+: full) : Begins full (said ++ [.serverClosed])

/-- What a server can see of a connection for one query. -/
def Converses (target : Target) (text : String) (sent : List Traffic) : Prop :=
  ∃ opening, Opens target opening ∧ Begins (opening ++ [.query text, .terminate]) sent

/-- Nobody needs a connection any more on which a query was sent: the client has ended it politely,
or the server has hung up. -/
def IsOver (sent : List Traffic) : Prop :=
  queries sent ≠ [] → .terminate ∈ sent ∨ .serverClosed ∈ sent

/-- How many connections are open behind some traffic, if `n` are before it. One that the client
leaves without a word counts as open. -/
def openConnections (n : Nat) : List Traffic → Nat
  | [] => n
  | .connected :: rest => openConnections (n + 1) rest
  | .terminate :: rest | .serverClosed :: rest => openConnections (n - 1) rest
  | _ :: rest => openConnections n rest

namespace Begins

theorem of_isPrefix {p : List Traffic} (h : Begins full sent) (hp : p <+: sent) :
    Begins full p := by
  cases h with
  | speaking beginning => exact .speaking (hp.trans beginning)
  | hungUp beginning =>
    rcases List.prefix_concat_iff.mp hp with rfl | hp
    · exact .hungUp beginning
    · exact .speaking (hp.trans beginning)

theorem append_right (h : Begins full sent) (more : List Traffic) : Begins (full ++ more) sent := by
  cases h with
  | speaking beginning => exact .speaking (beginning.trans (List.prefix_append ..))
  | hungUp beginning => exact .hungUp (beginning.trans (List.prefix_append ..))

/-- What is no hanging up occurs no more often than in the whole. -/
theorem count_le (h : Begins full sent) {t : Traffic} (ht : t ≠ .serverClosed) :
    sent.count t ≤ full.count t := by
  cases h with
  | speaking beginning => exact beginning.sublist.count_le t
  | hungUp beginning =>
    rw [List.count_append, List.count_singleton]
    simpa [ht.symm] using beginning.sublist.count_le t

theorem startups_isPrefix (h : Begins full sent) : startups sent <+: startups full := by
  cases h with
  | speaking beginning => exact beginning.filterMap _
  | hungUp beginning =>
    rw [startups_append, show startups [.serverClosed] = [] from rfl, List.append_nil]
    exact beginning.filterMap _

theorem queries_isPrefix (h : Begins full sent) : queries sent <+: queries full := by
  cases h with
  | speaking beginning => exact beginning.filterMap _
  | hungUp beginning =>
    rw [queries_append, show queries [.serverClosed] = [] from rfl, List.append_nil]
    exact beginning.filterMap _

end Begins

theorem Opens.sent_says (h : Opens target sent) :
    startups sent = [(target.username, target.database)] ∧ queries sent = [] ∧
      sent.count .connected = 1 := by
  obtain ⟨rfl | rfl, rfl | rfl⟩ := h <;> exact ⟨rfl, rfl, by simp⟩

namespace Converses

theorem of_isPrefix {p : List Traffic} (h : Converses target text sent) (hp : p <+: sent) :
    Converses target text p := by
  obtain ⟨opening, hopens, hbegins⟩ := h
  exact ⟨opening, hopens, hbegins.of_isPrefix hp⟩

theorem startups_isPrefix (h : Converses target text sent) :
    startups sent <+: [(target.username, target.database)] := by
  obtain ⟨opening, hopens, hbegins⟩ := h
  have hwhole : startups (opening ++ [.query text, .terminate])
      = [(target.username, target.database)] := by
    rw [startups_append, hopens.sent_says.1]
    rfl
  exact hwhole ▸ hbegins.startups_isPrefix

theorem queries_isPrefix (h : Converses target text sent) : queries sent <+: [text] := by
  obtain ⟨opening, hopens, hbegins⟩ := h
  have hwhole : queries (opening ++ [.query text, .terminate]) = [text] := by
    rw [queries_append, hopens.sent_says.2.1]
    rfl
  exact hwhole ▸ hbegins.queries_isPrefix

theorem count_connected_le (h : Converses target text sent) : sent.count .connected ≤ 1 := by
  obtain ⟨opening, hopens, hbegins⟩ := h
  have hcount := hbegins.count_le (t := .connected) nofun
  rwa [List.count_append, hopens.sent_says.2.2] at hcount

end Converses

/-! ### What the operations send -/

theorem awaitAnswer_sends : Sends (fun _ s => s = []) (awaitAnswer server) := by
  intro m
  simp only [awaitAnswer, seen_bind_apply]
  cases server.latency (traffic m.events) <;> simp

theorem approach_sends :
    Sends (fun _ s => s = [.dialled target.host target.port]) (approach server target) := by
  intro m
  simp only [approach, send_bind_apply, seen_bind_apply]
  cases server.approach _ target <;> simp

theorem send_sends {t : Traffic} : Sends (fun r s => r ≠ none ∧ s = [t]) (send t) := by
  intro m
  simp [send]

/-- A message, the wait for its answer, and what is said to the answer. -/
theorem send_awaitAnswer_bind_sends {β : Type} {t : Traffic} {f : List Traffic → Activity β}
    {Q : Option β → List Traffic → Prop} (hnone : Q none [t])
    (hf : ∀ past, Sends (fun r s => Q r (t :: s)) (f past)) :
    Sends Q (send t >>= fun _ => awaitAnswer server >>= f) := by
  refine send_sends.bind (by simp) fun _ s hs => ?_
  obtain ⟨-, rfl⟩ := hs
  refine awaitAnswer_sends.bind (fun s hs => by simpa [hs] using hnone) fun past s hs => ?_
  simpa [hs] using hf past

/-- What is said where the server hangs up, and is an error then. -/
theorem hungUp_sends {error : Error} :
    Sends (fun r s => r ≠ some (.ok ()) ∧ s = [.serverClosed])
      (send .serverClosed >>= fun _ => (pure (.error error) : Activity (Except Error Unit))) :=
  send_sends.bind (by simp) fun _ s hs => .pure ⟨nofun, by simp [hs.2]⟩

theorem negotiate_sends :
    Sends (fun r s => (s = [] ∨ s = [.sslRequest]) ∨
      r ≠ some (.ok ()) ∧ s = [.sslRequest, .serverClosed]) (negotiate server mode) := by
  unfold negotiate
  split
  · exact .pure (.inl (.inl rfl))
  · refine send_awaitAnswer_bind_sends (.inl (.inr rfl)) fun past => ?_
    split
    case h_5 => exact hungUp_sends.mono fun r s hs => .inr ⟨hs.1, by rw [hs.2]⟩
    all_goals exact .pure (.inl (.inr rfl))

/-- A login that is decided behind some messages says nothing more, or is hung up. -/
theorem enter_sends (admission : Admission) (front : List Traffic) :
    Sends (fun r s => front ++ s = front ∨
      r ≠ some (.ok ()) ∧ front ++ s = front ++ [.serverClosed]) (enter admission) := by
  cases admission with
  | closed => exact hungUp_sends.mono fun r s hs => .inr ⟨hs.1, by rw [hs.2]⟩
  | _ => exact .pure (.inl (List.append_nil front))

/-- The login behind an opening that is complete but for it. -/
theorem logIn_sends :
    Sends (fun r s => ∃ given, (given = [] ∨ given = [.password target.password]) ∧
      (s = .startup target.username target.database :: given ∨
        r ≠ some (.ok ()) ∧ s = .startup target.username target.database :: given
          ++ [.serverClosed]))
      (logIn server target) := by
  refine send_awaitAnswer_bind_sends ⟨[], .inl rfl, .inl rfl⟩ fun past => ?_
  split
  next admission _ =>
    exact (enter_sends admission [.startup target.username target.database]).mono
      fun r s hs => ⟨[], .inl rfl, hs⟩
  next =>
    refine send_awaitAnswer_bind_sends ⟨_, .inr rfl, .inl rfl⟩ fun past => ?_
    exact (enter_sends _ [.startup target.username target.database,
      .password target.password]).mono fun r s hs => ⟨_, .inr rfl, hs⟩

/-- An opening begins with what is said about a secured connection. -/
theorem exists_opens_begins (target : Target) {s : List Traffic}
    (h : (s = [] ∨ s = [.sslRequest]) ∨ s = [.sslRequest, .serverClosed]) :
    ∃ opening, Opens target opening ∧
      Begins opening ([.dialled target.host target.port, .connected] ++ s) := by
  rcases h with (rfl | rfl) | rfl
  · exact ⟨_, .mk (.inl rfl) (.inl rfl), .speaking ⟨_, rfl⟩⟩
  · exact ⟨_, .mk (.inr rfl) (.inl rfl), .speaking ⟨_, rfl⟩⟩
  · exact ⟨_, .mk (.inr rfl) (.inl rfl), .hungUp ⟨_, rfl⟩⟩

/-- What is sent when a connection is opened. -/
theorem connect_sends :
    Sends (fun r s => ∃ opening, Opens target opening ∧ Begins opening s ∧
      (r = some (.ok ()) → s = opening)) (connect server target) := by
  refine approach_sends.bind ?_ fun refused s hs => ?_
  · rintro s rfl
    exact ⟨_, .mk (.inl rfl) (.inl rfl), .speaking ⟨_, rfl⟩, nofun⟩
  subst hs
  split
  · exact .pure ⟨_, .mk (.inl rfl) (.inl rfl), .speaking ⟨_, rfl⟩, nofun⟩
  refine send_sends.bind (by simp) fun _ s hs => ?_
  obtain ⟨-, rfl⟩ := hs
  refine negotiate_sends.bind (fun s hs => ?_) fun result s hs => ?_
  · obtain ⟨opening, hopens, hbegins⟩ := exists_opens_begins target (hs.imp id (·.2))
    exact ⟨opening, hopens, hbegins, nofun⟩
  cases result with
  | error e =>
    obtain ⟨opening, hopens, hbegins⟩ := exists_opens_begins target (hs.imp id (·.2))
    exact .pure ⟨opening, hopens, by simpa using hbegins, nofun⟩
  | ok =>
    have hasked : s = [] ∨ s = [.sslRequest] := hs.resolve_right fun h => h.1 rfl
    refine logIn_sends.mono fun r s' hs' => ?_
    obtain ⟨given, hgiven, hs'⟩ := hs'
    refine ⟨_, .mk hasked hgiven, ?_⟩
    rcases hs' with rfl | ⟨hr, rfl⟩
    · exact ⟨.speaking (by simp), fun _ => by simp⟩
    · have hhungUp := Begins.hungUp (List.prefix_refl ([.dialled target.host target.port,
        .connected] ++ s ++ .startup target.username target.database :: given))
      exact ⟨by simpa using hhungUp, (absurd · hr)⟩

theorem execute_sends :
    Sends (fun r s => (s = [.query text] ∧ ∀ result, r ≠ some (result, false)) ∨
      (s = [.query text, .serverClosed] ∧ ∃ result, r = some (result, false)))
      (execute server text) := by
  refine send_awaitAnswer_bind_sends (.inl ⟨rfl, nofun⟩) fun past => ?_
  cases hopen : staysOpen (server.reply past) with
  | true => simpa [hopen] using Sends.pure (.inl ⟨rfl, by simp⟩)
  | false =>
    simp only [hopen, Bool.not_false, if_true]
    refine send_sends.bind (by simp) fun _ s hs => .pure (.inr ?_)
    simp [hs.2]

theorem close_sends (isOpen : Bool) :
    Sends (fun _ s => s = if isOpen then [.terminate] else []) (close server isOpen) := by
  unfold close
  extract_lets rest
  have hrest : ∀ u, Sends (fun _ s => s = []) (rest u) := by
    intro u m
    simp only [rest, seen_bind_apply]
    cases server.parting (traffic m.events) with
    | none => simp
    | some n => cases server.closing (traffic m.events) <;> simp
  cases isOpen with
  | true =>
    refine send_sends.bind (by simp) fun u s hs => ?_
    simpa [hs.2] using hrest u
  | false => exact hrest ()

/-- A query over a connection of its own is a conversation, which is over when it ends. -/
theorem runQuery_sends {φ : Type} (other fault : Error → φ) :
    Sends (fun r s => Converses target text s ∧ (r ≠ none → IsOver s))
      (runQuery server target text other fault) := by
  refine connect_sends.bind ?_ fun result s hs => ?_
  · rintro s ⟨opening, hopens, hbegins, -⟩
    exact ⟨⟨opening, hopens, hbegins.append_right _⟩, (absurd rfl ·)⟩
  obtain ⟨opening, hopens, hbegins, hopened⟩ := hs
  cases result with
  | error e =>
    have hqueries : queries s = [] :=
      List.prefix_nil.mp (hopens.sent_says.2.1 ▸ hbegins.queries_isPrefix)
    refine .pure ?_
    rw [List.append_nil]
    exact ⟨⟨opening, hopens, hbegins.append_right _⟩, fun _ hsent => (hsent hqueries).elim⟩
  | ok =>
    obtain rfl := hopened rfl
    refine execute_sends.bind ?_ fun answer s' hs' => ?_
    · rintro s' (⟨rfl, -⟩ | ⟨-, result, hresult⟩)
      · exact ⟨⟨s, hopens, .speaking ⟨[.terminate], by simp⟩⟩, (absurd rfl ·)⟩
      · cases hresult
    · -- The client ends the connection where the server has left it open.
      obtain ⟨result, isOpen⟩ := answer
      have hended : Converses target text (s ++ (s' ++ if isOpen then [.terminate] else [])) ∧
          IsOver (s ++ (s' ++ if isOpen then [.terminate] else [])) := by
        cases isOpen with
        | true =>
          obtain rfl : s' = [.query text] := by simpa using hs'
          exact ⟨⟨s, hopens, .speaking (List.prefix_refl _)⟩, fun _ => .inl (by simp)⟩
        | false =>
          obtain rfl : s' = [.query text, .serverClosed] := by simpa using hs'
          have hhungUp : Begins (s ++ [.query text]) (s ++ [.query text] ++ [.serverClosed]) :=
            .hungUp (List.prefix_refl _)
          exact ⟨⟨s, hopens, by simpa using hhungUp.append_right [.terminate]⟩,
            fun _ => .inr (by simp)⟩
      refine (close_sends isOpen).bind ?_ fun closed s'' hs'' => ?_
      · rintro s'' rfl
        exact ⟨hended.1, (absurd rfl ·)⟩
      · subst hs''
        cases result <;> cases closed <;>
          exact .pure (by rw [List.append_nil]; exact ⟨hended.1, fun _ => hended.2⟩)

theorem Establishes.opens (h : Establishes server target past sent time) : Opens target sent := by
  obtain @⟨_, asked, _, said, _, -, -, hnegotiated, hadmitted⟩ := h
  have hasked : asked = [] ∨ asked = [.sslRequest] := by cases hnegotiated <;> simp
  cases hadmitted with
  | atOnce => exact .mk hasked (.inl rfl)
  | byPassword => exact .mk hasked (.inr rfl)

theorem openConnections_append (n : Nat) (a b : List Traffic) :
    openConnections n (a ++ b) = openConnections (openConnections n a) b := by
  induction a generalizing n with
  | nil => rfl
  | cons t a ih => cases t <;> exact ih _

theorem openConnections_le (n : Nat) (sent : List Traffic) :
    openConnections n sent ≤ n + sent.count .connected := by
  induction sent generalizing n with
  | nil => simp [openConnections]
  | cons t sent ih =>
    have := ih n
    cases t with
    | connected => simpa [openConnections, Nat.add_right_comm, Nat.add_assoc] using ih (n + 1)
    | terminate | serverClosed =>
      have := ih (n - 1)
      simp [openConnections]
      omega
    | _ => simpa [openConnections] using ih n

/-- A query that is served is a conversation, and leaves no connection open. -/
theorem Serves.converses (h : Serves server target text past sent time) :
    Converses target text sent ∧ IsOver sent ∧ openConnections 0 sent = 0 := by
  obtain ⟨hestablished, ⟨⟩, ⟨⟩⟩ := h
  refine ⟨⟨_, hestablished.opens, .speaking (by simp)⟩, fun _ => .inl (by simp), ?_⟩
  obtain ⟨rfl | rfl, rfl | rfl⟩ := hestablished.opens <;> rfl

end Database

/-! ### A bootstrap, whenever one looks -/

/-- What the server sees of a bootstrap: a conversation in which the database is to be made and,
where that one went well and the script was read, a second one in which the script is to run. -/
inductive Bootstraps (server : Database.Server) (files : Files) (b : Bootstrapper)
    (past : List Database.Traffic) (start : Instant) :
    List Database.Traffic → List Database.Traffic → Prop where
  | making {first} (making : Database.Converses b.config.adminTarget b.statement first) :
      Bootstraps server files b past start first []
  | filling {first second t script time}
      (made : Database.Serves server b.config.adminTarget b.statement past first t)
      (loaded : Loads files b.scriptPath (start.advance t) script time)
      (filling : Database.Converses b.config.ownTarget script second) :
      Bootstraps server files b past start first second

namespace Bootstraps

variable {server : Database.Server} {files : Files} {b : Bootstrapper} {start : Instant}
  {past first second seen : List Database.Traffic}

theorem first_converses (h : Bootstraps server files b past start first second) :
    Database.Converses b.config.adminTarget b.statement first := by
  cases h with
  | making making => exact making
  | filling made => exact made.converses.1

/-- There is one script for the second conversation; it is read when the first one went well. -/
theorem exists_script (h : Bootstraps server files b past start first second) :
    ∃ script, Database.Converses b.config.ownTarget script second ∧
      Database.queries (first ++ second) <+: [b.statement, script] ∧
      (second ≠ [] → ∃ t time,
        Database.Serves server b.config.adminTarget b.statement past first t ∧
        Loads files b.scriptPath (start.advance t) script time) := by
  cases h with
  | making making =>
    refine ⟨"", ⟨_, .mk (.inl rfl) (.inl rfl), .speaking List.nil_prefix⟩, ?_, (absurd rfl ·)⟩
    rw [List.append_nil]
    exact making.queries_isPrefix.trans ⟨[""], rfl⟩
  | @filling _ t script time made loaded filling =>
    refine ⟨script, filling, ?_, fun _ => ⟨t, time, made, loaded⟩⟩
    rw [Database.queries_append, made.sent_says.2]
    exact (List.prefix_append_right_inj [b.statement]).mpr filling.queries_isPrefix

theorem of_isPrefix (h : Bootstraps server files b past start first second)
    (hseen : seen <+: first ++ second) :
    ∃ first second, seen = first ++ second ∧ Bootstraps server files b past start first second := by
  rcases List.prefix_or_prefix_of_prefix hseen (List.prefix_append first second) with
    hp | ⟨p, rfl⟩
  · exact ⟨seen, [], (List.append_nil _).symm, .making (h.first_converses.of_isPrefix hp)⟩
  · refine ⟨first, p, rfl, ?_⟩
    have hp := (List.prefix_append_right_inj first).mp hseen
    cases h with
    | making making => exact List.prefix_nil.mp hp ▸ .making making
    | filling made loaded filling => exact .filling made loaded (filling.of_isPrefix hp)

/-- There are two connections at most, and only one of them at a time. -/
theorem connections_le (h : Bootstraps server files b past start first second) :
    (first ++ second).count .connected ≤ 2 ∧ Database.openConnections 0 (first ++ second) ≤ 1 := by
  rw [List.count_append, Database.openConnections_append]
  cases h with
  | making making =>
    have hcount := making.count_connected_le
    have hopen := Database.openConnections_le 0 first
    simp only [List.count_nil, Database.openConnections]
    omega
  | filling made _ filling =>
    have hcount := made.converses.1.count_connected_le
    have hcount' := filling.count_connected_le
    have hopen := Database.openConnections_le 0 second
    rw [made.converses.2.2]
    omega

end Bootstraps

namespace Bootstrapper

variable {server : Database.Server} {files : Files} {b : Bootstrapper} {m : Moment}

theorem createDatabase_sends :
    Sends (fun r s => Database.Converses b.config.adminTarget b.statement s ∧
      (r ≠ none → Database.IsOver s)) (b.createDatabase server) := by
  refine (Database.runQuery_sends _ _).bind_quiet fun result => ?_
  cases result with
  | error f => exact .pure rfl
  | ok rows => exact fun m => by simp

theorem runScript_sends {script : String} :
    Sends (fun r s => Database.Converses b.config.ownTarget script s ∧
      (r ≠ none → Database.IsOver s)) (b.runScript server script) := by
  refine (Database.runQuery_sends _ _).bind_quiet fun result => ?_
  cases result with
  | error f => exact .pure rfl
  | ok rows => exact fun m => by simp

theorem readScript_sends : Sends (fun _ s => s = []) (b.readScript files) := by
  intro m
  simp only [readScript, now_bind_apply]
  cases files.latency m.now b.scriptPath with
  | none => simp
  | some n =>
    cases files.content m.now b.scriptPath with
    | error e => simp
    | ok bytes => cases hutf8 : Text.ofUtf8? bytes <;> simp [hutf8]

/-- A bootstrap sends one conversation, or two; the second one is there only when the first went
well and the script was read. -/
theorem bootstrap_sends (m : Moment) :
    ∃ first second, traffic (eventsOf (b.bootstrap server files m).steps) = first ++ second ∧
      Bootstraps server files b (traffic m.events) m.now first second ∧
      ((b.bootstrap server files m).result ≠ none →
        Database.IsOver first ∧ Database.IsOver second) := by
  have hnothing : Database.IsOver [] := (absurd rfl ·)
  obtain ⟨hfirst, hover⟩ := @createDatabase_sends server b m
  unfold bootstrap
  rcases bind_cases (b.createDatabase server) _ m with ⟨-, hrun⟩ | ⟨created, hcreated, hrun⟩
  · rw [hrun]
    exact ⟨_, [], by simp, .making hfirst, (absurd rfl ·)⟩
  rw [hrun]
  replace hover := hover (by simp [hcreated])
  cases created with
  | error f => exact ⟨_, [], by simp, .making hfirst, fun _ => ⟨hover, hnothing⟩⟩
  | ok =>
    dsimp only
    have hmade := (createDatabase_ends_iff rfl).mp ⟨hcreated, rfl, rfl⟩
    generalize hm₁ : m.after (b.createDatabase server m).steps = m₁
    have hread := @readScript_sends files b m₁
    cases hscript : (b.readScript files m₁).result with
    | none => exact ⟨_, [], by simp [bind_apply_of_none hscript, hread], .making hfirst,
        by simp [bind_apply_of_none hscript]⟩
    | some result =>
      rw [bind_apply_of_some hscript]
      cases result with
      | error f => exact ⟨_, [], by simp [hread], .making hfirst, fun _ => ⟨hover, hnothing⟩⟩
      | ok script =>
        obtain ⟨-, hloaded⟩ := readScript_ends_iff.mp ⟨hscript, hread, rfl⟩
        obtain ⟨hsecond, hover'⟩ := @runScript_sends server b script
          (m₁.after (b.readScript files m₁).steps)
        rw [← hm₁, Moment.after_now] at hloaded
        exact ⟨_, _, by simp [hread], .filling hmade hloaded hsecond,
          fun h => ⟨hover, hover' h⟩⟩

end Bootstrapper

/-- **The traffic of a bootstrap.** A bootstrap that is given up at a deadline has sent a beginning
of what it would have sent; one that is not given up ends. Whenever one looks, the server has seen
at most two connections, one after the other: the first is started up for the server's own
database, and its only query makes the database; the second is started up for the configured one,
and its only query is the whole script. The second is there only when the first query completed, the
first connection was closed without an error and the script was read. When the bootstrap ends, a
connection on which a query was sent has been ended politely, unless the server has hung up. -/
theorem bootstrap_traffic (b : Bootstrapper) (server : Database.Server) (files : Files)
    (deadline : Instant) (m : Moment) :
    let whole := b.bootstrap server files m
    let cut := (b.bootstrap server files).cutAt deadline m
    let sent := traffic (eventsOf whole.steps)
    let makes := "CREATE DATABASE " ++ b.config.name
    traffic (eventsOf cut.steps) <+: sent ∧
    (cut.result ≠ some none → cut.steps = whole.steps ∧ whole.result ≠ none) ∧
    ∀ seen, seen <+: sent → ∃ first second script,
      seen = first ++ second ∧
      seen.count .connected ≤ 2 ∧ Database.openConnections 0 seen ≤ 1 ∧
      Database.Converses b.config.adminTarget makes first ∧
      Database.Converses b.config.ownTarget script second ∧
      Database.startups first <+: [(b.config.user, "postgres")] ∧
      Database.startups second <+: [(b.config.user, b.config.name)] ∧
      Database.queries seen <+: [makes, script] ∧
      Database.queries first <+: [makes] ∧ Database.queries second <+: [script] ∧
      (second ≠ [] → ∃ t time,
        Database.Serves server b.config.adminTarget makes (traffic m.events) first t ∧
        Loads files b.scriptPath (m.now.advance t) script time) ∧
      (seen = sent → whole.result ≠ none → Database.IsOver first ∧ Database.IsOver second) := by
  refine ⟨(cutAt_events_isPrefix ..).filterMap _, fun hcut => ?_, fun seen hseen => ?_⟩
  · rcases cutAt_cases (b.bootstrap server files) deadline m with ⟨a, hr, -, hkept⟩ | ⟨-, hlost⟩
    · exact ⟨by rw [hkept], by simp [hr]⟩
    · exact (hcut (by rw [hlost])).elim
  · obtain ⟨first, second, hsent, hbootstraps, hover⟩ := Bootstrapper.bootstrap_sends m
    -- What is seen of a whole bootstrap is over when the bootstrap is; a beginning need not be.
    obtain ⟨first, second, rfl, hseen, hover⟩ : ∃ first second, seen = first ++ second ∧
        Bootstraps server files b (traffic m.events) m.now first second ∧
        (seen = traffic (eventsOf (b.bootstrap server files m).steps) →
          (b.bootstrap server files m).result ≠ none →
          Database.IsOver first ∧ Database.IsOver second) := by
      by_cases hwhole : seen = traffic (eventsOf (b.bootstrap server files m).steps)
      · exact ⟨first, second, hwhole.trans hsent, hbootstraps, fun _ => hover⟩
      · obtain ⟨first, second, heq, h⟩ := hbootstraps.of_isPrefix (hsent ▸ hseen)
        exact ⟨first, second, heq, h, (absurd · hwhole)⟩
    obtain ⟨script, hsecond, hqueries, hserved⟩ := hseen.exists_script
    have hfirst := hseen.first_converses
    obtain ⟨hcount, hopen⟩ := hseen.connections_le
    exact ⟨first, second, script, rfl, hcount, hopen, hfirst, hsecond, hfirst.startups_isPrefix,
      hsecond.startups_isPrefix, hqueries, hfirst.queries_isPrefix, hsecond.queries_isPrefix,
      hserved, hover⟩

end DatabaseResource
