import DatabaseResource.Proofs.Journal
import Mathlib.Data.Bool.AllAny

/-!
# Names that stand for themselves

The name of the database stands in the statement that makes it as it is, without quotation marks.
`Sql.Reads` says how the server reads the words of a statement: a word goes on as long as it can and
is taken in small letters, blank characters part words, and all else is something other than a
word. A plain name is read as one word, which is the name (`PlainName.reads_iff`), and among the
names of ASCII characters no other is (`Config.isPlainIdentifier_iff_reads`). So a statement with
such a name can only make the database that is connected to afterwards, and the log warns of all
other names (`plain_name_stands_for_itself`).
-/

namespace DatabaseResource

/-! ### Words of a statement -/

namespace Sql

def isSpace (c : Char) : Bool := [' ', '\t', '\n', '\r', '\x0b', '\x0c'].contains c

/-- Letters, the low line, and all that is not ASCII. -/
def beginsWord (c : Char) : Bool := c.isAlpha || c == '_' || 0x80 ≤ c.toNat

def continuesWord (c : Char) : Bool := beginsWord c || c.isDigit || c == '$'

inductive Token where
  | word (text : String)
  /-- All that is no word: quotations, comments, numbers and signs. -/
  | other (text : String)
deriving DecidableEq, Repr

/-- A word as it is taken: its ASCII letters are small. -/
def folded (cs : List Char) : String := String.ofList (cs.map Char.toLower)

theorem folded_eq_self_iff {cs : List Char} :
    folded cs = String.ofList cs ↔ ∀ d ∈ cs, d.toLower = d := by
  have hmap : cs.map Char.toLower = cs.map id ↔ ∀ d ∈ cs, d.toLower = d := List.map_inj_left
  rwa [List.map_id, ← String.ofList_inj] at hmap

/-- How a text is read. Where a token that is no word ends is left open: it is taken up to
anywhere. -/
inductive Reads : List Char → List Token → Prop where
  | done : Reads [] []
  | space {c cs tokens} (blank : isSpace c = true) (more : Reads cs tokens) : Reads (c :: cs) tokens
  | word {c cs rest tokens} (begins : beginsWord c = true)
      (continues : ∀ d ∈ cs, continuesWord d = true)
      (longest : ∀ d ∈ rest.head?, continuesWord d = false) (more : Reads rest tokens) :
      Reads (c :: (cs ++ rest)) (.word (folded (c :: cs)) :: tokens)
  | other {c cs rest tokens} (noSpace : isSpace c = false) (noWord : beginsWord c = false)
      (more : Reads rest tokens) :
      Reads (c :: (cs ++ rest)) (.other (String.ofList (c :: cs)) :: tokens)

variable {c : Char} {cs rest : List Char} {tokens : List Token}

theorem beginsWord_of_isSpace (h : isSpace c = true) : beginsWord c = false := by
  have hspaces : ∀ c ∈ [' ', '\t', '\n', '\r', '\x0b', '\x0c'], beginsWord c = false :=
    List.all_iff_forall_prop.mp (by decide)
  exact hspaces c (List.contains_iff_mem.mp h)

theorem reads_nil_iff : Reads [] tokens ↔ tokens = [] := by
  constructor
  · rintro ⟨⟩
    rfl
  · rintro rfl
    exact .done

theorem reads_space_iff (h : isSpace c = true) : Reads (c :: cs) tokens ↔ Reads cs tokens := by
  constructor
  · intro hreads
    cases hreads with
    | space _ more => exact more
    | word begins => cases (beginsWord_of_isSpace h).symm.trans begins
    | other noSpace => cases noSpace.symm.trans h
  · exact .space h

/-- There is one way for a word to go on as long as it can. -/
theorem takeWhile_word (hcs : ∀ d ∈ cs, continuesWord d = true)
    (hrest : ∀ d ∈ rest.head?, continuesWord d = false) :
    (cs ++ rest).takeWhile continuesWord = cs := by
  rw [List.takeWhile_append_of_pos hcs]
  cases rest with
  | nil => simp
  | cons d rest => simp [hrest d rfl]

theorem reads_word_iff (hc : beginsWord c = true) (hcs : ∀ d ∈ cs, continuesWord d = true)
    (hrest : ∀ d ∈ rest.head?, continuesWord d = false) :
    Reads (c :: (cs ++ rest)) tokens
      ↔ ∃ more, tokens = .word (folded (c :: cs)) :: more ∧ Reads rest more := by
  constructor
  · intro hreads
    generalize htext : c :: (cs ++ rest) = text at hreads
    cases hreads with
    | done => cases htext
    | space blank =>
      obtain ⟨rfl, -⟩ := List.cons.inj htext
      cases (beginsWord_of_isSpace blank).symm.trans hc
    | @word _ cs' _ more _ continues longest hmore =>
      obtain ⟨rfl, hsplit⟩ := List.cons.inj htext
      obtain rfl : cs = cs' := by
        rw [← takeWhile_word hcs hrest, hsplit, takeWhile_word continues longest]
      obtain rfl := List.append_cancel_left hsplit
      exact ⟨more, rfl, hmore⟩
    | other _ noWord =>
      obtain ⟨rfl, -⟩ := List.cons.inj htext
      cases noWord.symm.trans hc
  · rintro ⟨more, rfl, hmore⟩
    exact .word hc hcs hrest hmore

/-- A word that is all of a text. -/
theorem reads_whole_iff (hc : beginsWord c = true) (hcs : ∀ d ∈ cs, continuesWord d = true) :
    Reads (c :: cs) tokens ↔ tokens = [.word (folded (c :: cs))] := by
  have hword : Reads (c :: (cs ++ [])) tokens ↔ _ := reads_word_iff hc hcs (by simp)
  simpa [reads_nil_iff] using hword

theorem reads_word_space_iff (hc : beginsWord c = true) (hcs : ∀ d ∈ cs, continuesWord d = true) :
    Reads (c :: (cs ++ ' ' :: rest)) tokens
      ↔ ∃ more, tokens = .word (folded (c :: cs)) :: more ∧ Reads rest more := by
  have hspace : isSpace ' ' = true ∧ continuesWord ' ' = false := by decide
  rw [reads_word_iff hc hcs (by simp [hspace.2])]
  simp only [reads_space_iff hspace.1]

/-- No word is longer than the text. -/
theorem Reads.length_le (h : Reads cs tokens) :
    ∀ text, .word text ∈ tokens → text.toList.length ≤ cs.length := by
  induction h with
  | done => exact nofun
  | space _ _ ih =>
    intro text htext
    exact Nat.le_succ_of_le (ih text htext)
  | @word c cs rest tokens _ _ _ _ ih =>
    intro text htext
    rcases List.mem_cons.mp htext with heq | htext
    · obtain rfl := Token.word.inj heq
      simp [folded]
    · have hlength := ih text htext
      simp only [List.length_cons, List.length_append]
      omega
  | @other c cs rest tokens _ _ _ ih =>
    intro text htext
    have hlength := ih text (by simpa using htext)
    simp only [List.length_cons, List.length_append]
    omega

/-- The statement that makes a database is read as its two words, and what the name is read as. -/
theorem reads_statement_iff (name : String) : Reads ("CREATE DATABASE " ++ name).toList tokens
    ↔ ∃ more, tokens = .word "create" :: .word "database" :: more ∧ Reads name.toList more := by
  have htext : ("CREATE DATABASE " ++ name).toList = 'C' :: (['R', 'E', 'A', 'T', 'E'] ++ ' ' :: 'D'
      :: (['A', 'T', 'A', 'B', 'A', 'S', 'E'] ++ ' ' :: name.toList)) := by
    simp [String.toList_append]
  have hdatabase {tokens : List Token} :
      Reads ('D' :: (['A', 'T', 'A', 'B', 'A', 'S', 'E'] ++ ' ' :: name.toList)) tokens
        ↔ ∃ more, tokens = .word "database" :: more ∧ Reads name.toList more :=
    reads_word_space_iff (by decide) (List.all_eq_true.mp (by decide))
  rw [htext, reads_word_space_iff (by decide) (List.all_eq_true.mp (by decide))]
  constructor
  · rintro ⟨_, rfl, h⟩
    obtain ⟨more, rfl, hname⟩ := hdatabase.mp h
    exact ⟨more, rfl, hname⟩
  · rintro ⟨more, rfl, hname⟩
    exact ⟨_, rfl, hdatabase.mpr ⟨more, rfl, hname⟩⟩

end Sql

/-! ### Plain names -/

namespace PlainName

/-- The characters that a plain name may begin with. -/
def firsts : List Char := "abcdefghijklmnopqrstuvwxyz_".toList

/-- The characters that a plain name may go on with. -/
def others : List Char := "abcdefghijklmnopqrstuvwxyz0123456789_$".toList

end PlainName

/-- A small letter or the low line, and then any number of these, digits and dollar signs. -/
def PlainName (name : List Char) : Prop :=
  ∃ c cs, name = c :: cs ∧ c ∈ PlainName.firsts ∧ ∀ d ∈ cs, d ∈ PlainName.others

/-- What is so of all ASCII characters can be tried out. -/
theorem ascii_induction {P : Char → Prop} (h : ∀ n < 0x80, P (Char.ofNat n)) {c : Char}
    (hc : c.toNat < 0x80) : P c := by
  simpa using h c.toNat hc

namespace PlainName

variable {c : Char}

/-- Of the ASCII characters, those that begin a word and are small already. -/
theorem mem_firsts_iff :
    c ∈ firsts ↔ c.toNat < 0x80 ∧ Sql.beginsWord c = true ∧ c.toLower = c := by
  have hall : ∀ c ∈ firsts, c.toNat < 0x80 ∧ Sql.beginsWord c = true ∧ c.toLower = c :=
    List.all_iff_forall_prop.mp (by decide)
  refine ⟨hall c, fun ⟨hascii, h⟩ => ?_⟩
  exact ascii_induction (P := fun c => Sql.beginsWord c = true ∧ c.toLower = c → c ∈ firsts)
    (by decide) hascii h

/-- Of the ASCII characters, those that go on with a word and are small already. -/
theorem mem_others_iff :
    c ∈ others ↔ c.toNat < 0x80 ∧ Sql.continuesWord c = true ∧ c.toLower = c := by
  have hall : ∀ c ∈ others, c.toNat < 0x80 ∧ Sql.continuesWord c = true ∧ c.toLower = c :=
    List.all_iff_forall_prop.mp (by decide)
  refine ⟨hall c, fun ⟨hascii, h⟩ => ?_⟩
  exact ascii_induction (P := fun c => Sql.continuesWord c = true ∧ c.toLower = c → c ∈ others)
    (by decide) hascii h

end PlainName

namespace Config

variable {c : Char}

theorem toNat_lt_of_beginsIdentifier (h : beginsIdentifier c = true) : c.toNat < 0x80 := by
  simp only [beginsIdentifier, Bool.or_eq_true, Bool.and_eq_true, decide_eq_true_eq,
    beq_iff_eq] at h
  rcases h with ⟨-, hle⟩ | rfl
  · have hle : c.toNat ≤ 'z'.toNat := hle
    exact Nat.lt_of_le_of_lt hle (by decide)
  · decide

theorem toNat_lt_of_continuesIdentifier (h : continuesIdentifier c = true) : c.toNat < 0x80 := by
  simp only [continuesIdentifier, Bool.or_eq_true, Bool.and_eq_true, decide_eq_true_eq,
    beq_iff_eq] at h
  rcases h with (h | ⟨-, hle⟩) | rfl
  · exact toNat_lt_of_beginsIdentifier h
  · have hle : c.toNat ≤ '9'.toNat := hle
    exact Nat.lt_of_le_of_lt hle (by decide)
  · decide

theorem beginsIdentifier_iff : beginsIdentifier c = true ↔ c ∈ PlainName.firsts := by
  have hall : ∀ c ∈ PlainName.firsts, beginsIdentifier c = true := List.all_eq_true.mp (by decide)
  refine ⟨fun h => ?_, hall c⟩
  exact ascii_induction (P := fun c => beginsIdentifier c = true → c ∈ PlainName.firsts)
    (by decide) (toNat_lt_of_beginsIdentifier h) h

theorem continuesIdentifier_iff : continuesIdentifier c = true ↔ c ∈ PlainName.others := by
  have hall : ∀ c ∈ PlainName.others, continuesIdentifier c = true :=
    List.all_eq_true.mp (by decide)
  refine ⟨fun h => ?_, hall c⟩
  exact ascii_induction (P := fun c => continuesIdentifier c = true → c ∈ PlainName.others)
    (by decide) (toNat_lt_of_continuesIdentifier h) h

theorem isPlainIdentifier_iff (name : String) :
    isPlainIdentifier name = true ↔ PlainName name.toList := by
  unfold isPlainIdentifier PlainName
  cases name.toList with
  | nil => simp
  | cons c cs =>
    rw [Bool.and_eq_true, beginsIdentifier_iff, List.all_eq_true]
    simp only [continuesIdentifier_iff]
    constructor
    · rintro ⟨hc, hcs⟩
      exact ⟨c, cs, rfl, hc, hcs⟩
    · rintro ⟨_, _, heq, hc, hcs⟩
      obtain ⟨rfl, rfl⟩ := List.cons.inj heq
      exact ⟨hc, hcs⟩

end Config

namespace PlainName

variable {name : String} {tokens : List Sql.Token}

theorem reads_iff (h : PlainName name.toList) :
    Sql.Reads name.toList tokens ↔ tokens = [.word name] := by
  obtain ⟨c, cs, htext, hc, hcs⟩ := h
  obtain ⟨-, hbegins, hlower⟩ := mem_firsts_iff.mp hc
  have hcs := fun d hd => (mem_others_iff.mp (hcs d hd)).2
  have hfolded : Sql.folded (c :: cs) = name := by
    rw [← String.ofList_toList (s := name), htext, Sql.folded_eq_self_iff]
    exact List.forall_mem_cons.mpr ⟨hlower, fun d hd => (hcs d hd).2⟩
  rw [htext, Sql.reads_whole_iff hbegins fun d hd => (hcs d hd).1, hfolded]

/-- What stands for itself is plain, if it is ASCII: it has no capital letters, and all of it
belongs to the word. -/
theorem of_reads (hascii : ∀ c ∈ name.toList, c.toNat < 0x80)
    (h : Sql.Reads name.toList [.word name]) : PlainName name.toList := by
  generalize htext : name.toList = text at h hascii
  cases h with
  | space _ more =>
    have hlength := more.length_le name (by simp)
    rw [htext, List.length_cons] at hlength
    omega
  | @word c cs rest _ begins continues =>
    obtain rfl : rest = [] := by
      have hlength := congrArg List.length htext
      simpa [Sql.folded] using hlength
    rw [List.append_nil] at htext hascii ⊢
    obtain ⟨hfirst, hothers⟩ := List.forall_mem_cons.mp hascii
    obtain ⟨hc, hcs⟩ := List.forall_mem_cons.mp
      (Sql.folded_eq_self_iff.mp (String.toList_inj.mp (htext.trans String.toList_ofList.symm)))
    exact ⟨c, cs, rfl, mem_firsts_iff.mpr ⟨hfirst, begins, hc⟩,
      fun d hd => mem_others_iff.mpr ⟨hothers d hd, continues d hd, hcs d hd⟩⟩

end PlainName

/-- Of the ASCII names, the scan lets through those that stand for themselves, and no others. -/
theorem Config.isPlainIdentifier_iff_reads {name : String}
    (hascii : ∀ c ∈ name.toList, c.toNat < 0x80) :
    Config.isPlainIdentifier name = true ↔ Sql.Reads name.toList [.word name] := by
  rw [Config.isPlainIdentifier_iff]
  exact ⟨fun h => h.reads_iff.mpr rfl, PlainName.of_reads hascii⟩

/-! ### The warning at the start -/

open Activity

/-- A start warns of nothing, or of the name. -/
theorem warnings_startUp (env : Environment) (m : Moment) :
    (∃ c, Config.ofEnvironment env = .ok c ∧ ¬ PlainName c.name.toList ∧
      loggedAt .warn (startUp env m).steps = [(none, .nameNotPlain c.name)]) ∨
    ((∀ c, Config.ofEnvironment env = .ok c → PlainName c.name.toList) ∧
      loggedAt .warn (startUp env m).steps = []) := by
  unfold startUp DatabaseProvisioner.ofEnvironment
  cases Config.ofEnvironment env with
  | error e => exact .inr ⟨nofun, rfl⟩
  | ok config =>
    by_cases hplain : Config.isPlainIdentifier config.name = true
    · simp only [hplain, Bool.not_true, Bool.false_eq_true, if_false]
      refine .inr ⟨?_, rfl⟩
      rintro _ ⟨⟩
      exact (Config.isPlainIdentifier_iff _).mp hplain
    · simp only [hplain, Bool.not_false, if_true]
      exact .inl ⟨config, rfl, mt (Config.isPlainIdentifier_iff _).mpr hplain, rfl⟩

/-- Not a warning of a name. -/
def Event.SparesName (e : Event) : Prop :=
  ∀ context name, e.log? ≠ some (context, .nameNotPlain name)

theorem Activity.Emits.not_mem_logged {α : Type} {x : Activity α} (h : Emits Event.SparesName x)
    (m : Moment) (context : Option Log.Context) (name : String) :
    (context, .nameNotPlain name) ∉ logged (eventsOf (x m).steps) := by
  intro hmem
  obtain ⟨e, he, hlog⟩ := List.mem_filterMap.mp hmem
  exact h m e he context name hlog

/-- The warnings of an invocation are of its delivery. -/
theorem Journal.Tells.sparesName {ε : Type} {j : Journal} {context : Option Log.Context}
    {r : Request} {o : Outlet} {deadline : Instant} {m : Moment} {run : Run (Except ε Unit)}
    (h : j.Tells context r o deadline m run) : ∀ e ∈ eventsOf run.steps, e.SparesName := by
  intro e he context' name hlog
  have hwarning : (context', .nameNotPlain name) ∈ loggedAt .warn run.steps :=
    List.mem_filter.mpr ⟨List.mem_filterMap.mpr ⟨e, he, hlog⟩, rfl⟩
  rw [h.warnings] at hwarning
  obtain ⟨entry, hentry, heq⟩ := List.mem_map.mp hwarning
  obtain ⟨i, hi⟩ := List.mem_iff_getElem?.mp hentry
  obtain ⟨fault, rfl, -⟩ := (h.repeats i entry).mp hi
  cases heq

theorem handleInvocation_sparesName (id : String) (deadlineMillis : Nat) (r : Request)
    (p : DatabaseProvisioner) (world : World) :
    Emits Event.SparesName (handleInvocation id deadlineMillis r
      (p.provision world.server world.files) world) := by
  intro m
  cases hdeadline : m.now.after? (remaining deadlineMillis (world.wall m.now)) with
  | none =>
    rw [handleInvocation, now_bind_apply, hdeadline]
    exact fun _ he => nomatch he
  | some deadline =>
    obtain ⟨progress, hprogress, hlogged⟩ :=
      dispatch_progress p world.server world.files r (phaseDeadline deadline m.now) m
    obtain ⟨j, -, htells⟩ : ∃ j : Journal, j.progress = progress ∧
        j.Tells (some ⟨id, r.requestType.text, r.logicalResourceId⟩) r world.outlet deadline m
          (handleInvocation id deadlineMillis r (p.provision world.server world.files) world m) :=
      handleInvocation_tells hdeadline (p.provision_emits world.server world.files (fun _ => rfl)
        fun _ => rfl) hlogged hprogress.level
    exact htells.sparesName

theorem answer_sparesName (p : DatabaseProvisioner) (world : World) (i : Invocation) :
    Emits Event.SparesName (answer p world i) := by
  unfold answer
  cases Request.readDocument i.event.toList with
  | error => exact .pure _
  | ok read => exact handleInvocation_sparesName i.id i.deadlineMillis read.1 p world

theorem answerAll_sparesName (p : DatabaseProvisioner) (world : World)
    (invocations : List Invocation) : Emits Event.SparesName (answerAll p world invocations) := by
  induction invocations with
  | nil => exact .pure _
  | cons i rest ih =>
    unfold answerAll
    exact (answer_sparesName p world i).bind fun _ => ih.bind fun _ => .pure _

/-- A process warns of a name that is not plain, if a configuration with it loads. -/
theorem nameNotPlain_mem_serve_iff (env : Environment) (world : World)
    (invocations : List Invocation) (m : Moment) (context : Option Log.Context) (name : String) :
    (context, .nameNotPlain name) ∈ logged (eventsOf (serve env world invocations m).steps)
      ↔ context = none ∧
        ∃ c, Config.ofEnvironment env = .ok c ∧ c.name = name ∧ ¬ PlainName name.toList := by
  obtain ⟨entries, p, hstart, -⟩ := startUp_apply env
  have hspares := (answerAll_sparesName p world invocations).not_mem_logged
    (m.after (startUp env m).steps) context name
  have hmem : (context, .nameNotPlain name)
        ∈ logged (eventsOf (serve env world invocations m).steps)
      ↔ (context, .nameNotPlain name) ∈ loggedAt .warn (startUp env m).steps := by
    rw [hstart] at hspares
    rw [serve_eq_startUp, bind_of_apply_eq (hstart m), hstart]
    simp [loggedAt, hspares, Log.Entry.level]
  rw [hmem]
  rcases warnings_startUp env m with ⟨c, hc, hname, hwarnings⟩ | ⟨hplain, hwarnings⟩
  · rw [hwarnings, List.mem_singleton]
    constructor
    · rintro ⟨⟩
      exact ⟨rfl, c, hc, rfl, hname⟩
    · rintro ⟨rfl, c', hc', rfl, -⟩
      rw [Except.ok.inj (hc.symm.trans hc')]
  · rw [hwarnings]
    refine iff_of_false List.not_mem_nil ?_
    rintro ⟨-, c, hc, rfl, hname⟩
    exact hname (hplain c hc)

/-- **A plain name stands for itself.** A name is taken without a warning exactly if it is a small
letter or the low line, followed by any number of these, digits and dollar signs. A start warns of
any other name that a configuration brings, once, and of nothing else; behind the start, nothing
warns of a name. With a plain name the statement that makes the database is read in one way: as
three words, the last of which is the name, which is also the name of the database that is connected
to next. -/
theorem plain_name_stands_for_itself :
    (∀ name, Config.isPlainIdentifier name = true ↔ PlainName name.toList) ∧
    (∀ env m,
      (∃ c, Config.ofEnvironment env = .ok c ∧ ¬ PlainName c.name.toList ∧
        loggedAt .warn (startUp env m).steps = [(none, .nameNotPlain c.name)]) ∨
      ((∀ c, Config.ofEnvironment env = .ok c → PlainName c.name.toList) ∧
        loggedAt .warn (startUp env m).steps = [])) ∧
    (∀ env world invocations m context name,
      (context, .nameNotPlain name) ∈ logged (eventsOf (serve env world invocations m).steps)
        ↔ context = none ∧
          ∃ c, Config.ofEnvironment env = .ok c ∧ c.name = name ∧ ¬ PlainName name.toList) ∧
    ∀ b : Bootstrapper, PlainName b.config.name.toList →
      b.config.ownTarget.database = b.config.name ∧
      ∀ tokens, Sql.Reads b.statement.toList tokens
        ↔ tokens = [.word "create", .word "database", .word b.config.name] := by
  refine ⟨Config.isPlainIdentifier_iff, warnings_startUp, nameNotPlain_mem_serve_iff,
    fun b hname => ⟨rfl, fun tokens => ?_⟩⟩
  have hstatement : b.statement = "CREATE DATABASE " ++ b.config.name := rfl
  rw [hstatement, Sql.reads_statement_iff]
  simp [hname.reads_iff]

/-- Neither a low line in front nor a dollar sign parts a name. -/
theorem name_of_signs_is_one_word :
    let b := Bootstrapper.ofConfig { appConfig with name := "_app$1" }
    PlainName b.config.name.toList ∧
      ∀ tokens, Sql.Reads b.statement.toList tokens
        ↔ tokens = [.word "create", .word "database", .word "_app$1"] := by
  obtain ⟨hplain, -, -, hreads⟩ := plain_name_stands_for_itself
  have hname : PlainName "_app$1".toList := (hplain _).mp (by decide)
  exact ⟨hname, (hreads (.ofConfig { appConfig with name := "_app$1" }) hname).2⟩

end DatabaseResource
