import DatabaseResource.Proofs.Correspondence

/-!
# Two runs at different times

A bootstrap knows of what has been before it only what the database server has seen, and of the time
only what the files are then. So from moments before which the server has seen the same, and from
which on the script is found alike, it does the same (`DatabaseProvisioner.provision_tracks`); and a
phase that has the same time left is cut at the same place (`Activity.cutAt_eq_of_left`).
-/

namespace DatabaseResource

/-- Moments equally far from two starts, before which the database server has seen the same. -/
structure Moment.Tracks (start start' : Instant) (m m' : Moment) : Prop where
  traffic_eq : traffic m.events = traffic m'.events
  time_eq : ∃ n, m.now = start.advance n ∧ m'.now = start'.advance n

variable {start start' : Instant} {m m' : Moment} {α : Type}

theorem Moment.Tracks.after (h : m.Tracks start start' m') (steps : List Step) :
    (m.after steps).Tracks start start' (m'.after steps) where
  traffic_eq := by simp [h.traffic_eq]
  time_eq := by
    obtain ⟨n, hn, hn'⟩ := h.time_eq
    exact ⟨n + elapsed steps, by simp [hn, Instant.advance_advance],
      by simp [hn', Instant.advance_advance]⟩

/-- Moments that track each other correspond. -/
def Moment.tracking (start start' : Instant) : Moment.Correspondence where
  rel := Moment.Tracks start start'
  after h steps := h.after steps

/-- The same file is found from two starts on. -/
def Files.Found (files files' : Files) (path : String) (start start' : Instant) : Prop :=
  ∀ n, files.content (start.advance n) path = files'.content (start'.advance n) path ∧
    files.latency (start.advance n) path = files'.latency (start'.advance n) path

namespace Activity

/-- From moments that track each other, activities have the same run. -/
def Tracks (start start' : Instant) (x x' : Activity α) : Prop :=
  ∀ m m', m.Tracks start start' m' → x m = x' m'

/-! ### What is cut with the same time left -/

/-- Steps are cut by the time that is left, wherever they begin. -/
theorem cutSteps_eq_of_left {deadline deadline' start start' : Instant}
    (hleft : max 0 (deadline.nanos - start.nanos) = max 0 (deadline'.nanos - start'.nanos))
    (steps : List Step) : cutSteps deadline start steps = cutSteps deadline' start' steps := by
  induction steps generalizing start start' with
  | nil => rfl
  | cons s steps ih =>
    cases s with
    | event e => simp only [cutSteps, ih hleft]
    | wait n =>
      have hiff : start.nanos + (n + 1) ≤ deadline.nanos
          ↔ start'.nanos + (n + 1) ≤ deadline'.nanos := by
        omega
      have hwait : (deadline.nanos - start.nanos).toNat
          = (deadline'.nanos - start'.nanos).toNat := by
        omega
      simp only [cutSteps, hiff, hwait]
      split
      · rw [ih]
        simp only [Instant.advance_nanos]
        omega
      · rfl

/-- Activities with the same run are cut alike where the same time is left. -/
theorem cutAt_eq_of_left {x x' : Activity α} {deadline deadline' : Instant}
    (hrun : x m = x' m')
    (hleft : max 0 (deadline.nanos - m.now.nanos) = max 0 (deadline'.nanos - m'.now.nanos)) :
    x.cutAt deadline m = x'.cutAt deadline' m' := by
  have hrest : ∀ n : Nat, (deadline.nanos - (m.now.nanos + n)).toNat
      = (deadline'.nanos - (m'.now.nanos + n)).toNat := by
    intro n
    omega
  simp only [cutAt, hrun, cutSteps_eq_of_left hleft, Moment.after_now, Instant.advance_nanos, hrest]

end Activity

open Activity

/-! ### Provisioners -/

/-- The script of a provisioner is found alike from two starts on. -/
def DatabaseProvisioner.ScriptFound (p : DatabaseProvisioner) (files files' : Files)
    (start start' : Instant) : Prop :=
  ∀ b, p = .ready b → files.Found files' b.scriptPath start start'

theorem Database.Server.sameFrom_tracking (server : Server) :
    server.SameFrom (Moment.tracking start start') server := by
  constructor <;> intro m m' h <;> simp [h.traffic_eq]

theorem Files.Found.sameFrom {files files' : Files} {path : String}
    (h : files.Found files' path start start') :
    files.SameFrom (Moment.tracking start start') path files' := by
  intro m m' hm
  obtain ⟨n, hn, hn'⟩ := hm.time_eq
  rw [hn, hn']
  exact h n

theorem DatabaseProvisioner.provision_tracks {p : DatabaseProvisioner} (server : Database.Server)
    {files files' : Files} (hfiles : p.ScriptFound files files' start start') :
    Tracks start start' (p.provision server files) (p.provision server files') :=
  provision_sameFrom server.sameFrom_tracking fun b hb => (hfiles b hb).sameFrom

theorem dispatch_tracks (r : Request) {provisioner provisioner' : Provisioner}
    (h : Tracks start start' provisioner provisioner') :
    Tracks start start' (dispatch r provisioner) (dispatch r provisioner') :=
  dispatch_sameFrom (c := Moment.tracking start start') r h

end DatabaseResource
