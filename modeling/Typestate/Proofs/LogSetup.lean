import Typestate.Log.Setup
import Typestate.Proofs.Outcome

/-! # Setting up the log again and again

A request names the level of the log by a text, in capitals or not. A text that names no level is to
stand for warnings. But two names are known that stand for something else, and that this is no level
is found out only when the old handlers are gone: the log is left without one.

* `Log.StandsFor`: the level that a text stands for; `Log.Misnames`: the names of what is no level.
* `Log.IsSetTo`, `Log.IsStranded`: the log as it is to be, and the log that is left without a
  handler.
* `Log.configure_of_not_isMisnamed`, `Log.configure_of_misnames`: what one request comes to.
* `Log.after`: the log behind a run of requests; `Log.level_after_eq_iff`: its level.
* `Log.SetsUp`: every request of a run succeeds and leaves the log as it is to be.
* `misnamed_levels_strand_log`: this is so exactly if none of the texts is one of the two names. -/

namespace Typestate

/-- A request for a log whose level is given by a text. -/
structure NamedRequest where
  word : String
  asJson : Bool := false
  showsPlace : Bool := false

/-- The request. -/
def NamedRequest.request (r : NamedRequest) : LogRequest :=
  { level := .text r.word, asJson := r.asJson, showsPlace := r.showsPlace }

namespace Log

/-- The names of something that is no level, and the failure to use it as one. -/
inductive Misnames : String → Failure → Prop
  | layout : Misnames "BASIC_FORMAT" (.refused (.unknownLevel basicFormat))
  | layouts : Misnames "_STYLES" (.mismatch (.notLevel layoutTable))

/-- The text is one of these names, in capitals or not. -/
def IsMisnamed (s : String) : Prop := ∃ e, Misnames (Text.upper s) e

/-- The level that a text stands for: the one that it names, in capitals or not, by its first name
or a second one; and warnings if it names none. -/
inductive StandsFor (s : String) : Int → Prop
  | named {level : Int} :
      (Text.upper s, level) ∈ Level.standard ++ Level.aliases → StandsFor s level
  | unnamed : (∀ level, (Text.upper s, level) ∉ Level.standard ++ Level.aliases) →
      StandsFor s Level.warning

/-- The log takes records from the level on, for one handler that does so too. -/
structure IsSetTo (log : Log) (number : Int) (formatter : Formatter) : Prop where
  level : log.level = .number number
  handlers : log.handlers = [⟨.number number, formatter⟩]
  isPassedOn : log.isPassedOn = false

/-- The log has no handler, passes nothing on, and has the level from before. -/
structure IsStranded (log before : Log) : Prop where
  level : log.level = before.level
  handlers : log.handlers = []
  isPassedOn : log.isPassedOn = false

/-- The log behind a run of requests, whatever they come to. -/
def after (log : Log) (calls : List NamedRequest) : Log :=
  calls.foldl (fun log r => (log.configure r.request).1) log

/-- The last text of a run that is none of the two names stands for the level. -/
def LastNamed (level : Level) (calls : List NamedRequest) : Prop :=
  ∃ earlier r later, calls = earlier ++ r :: later ∧
    (¬ IsMisnamed r.word ∧ ∃ n, StandsFor r.word n ∧ level = .number n) ∧
    ∀ x ∈ later, IsMisnamed x.word

/-- **What is expected of a run**: no request fails, and behind each of them the log is set to the
level that its text stands for. -/
def SetsUp (log : Log) (calls : List NamedRequest) : Prop :=
  ∀ earlier r later, calls = earlier ++ r :: later →
    ((log.after earlier).configure r.request).2 = .ok () ∧
      ∃ level, StandsFor r.word level ∧
        (log.after (earlier ++ [r])).IsSetTo level r.request.formatter

/-! ### Texts -/

section Texts

variable {s : String} {level : Int} {e : Failure}

theorem standsFor_iff :
    StandsFor s level ↔ level = (Level.ofName? (Text.upper s)).getD Level.warning := by
  have hfound : ∀ n, Level.ofName? (Text.upper s) = some n ↔
      (Text.upper s, n) ∈ Level.standard ++ Level.aliases := fun n =>
    Names.lookup_eq_some_iff_mem (by decide)
  cases hname : Level.ofName? (Text.upper s) with
  | none =>
    have hnone : ∀ n, (Text.upper s, n) ∉ Level.standard ++ Level.aliases := fun n hn => by
      rw [(hfound n).mpr hn] at hname
      cases hname
    constructor
    · rintro (h | h)
      · exact absurd h (hnone level)
      · rfl
    · rintro rfl
      exact .unnamed hnone
  | some n =>
    have hn := (hfound n).mp hname
    constructor
    · rintro (h | h)
      · exact Option.some.inj (((hfound level).mpr h).symm.trans hname)
      · exact absurd hn (h n)
    · rintro rfl
      exact .named hn

/-- **A text stands for one level only.** -/
theorem StandsFor.unique {n k : Int} (h : StandsFor s n) (h' : StandsFor s k) : n = k :=
  (standsFor_iff.mp h).trans (standsFor_iff.mp h').symm

theorem levelOfText_of_misnames (h : Misnames (Text.upper s) e) : levelOfText s = .error e := by
  unfold levelOfText
  generalize Text.upper s = word at h
  cases h <;> rfl

theorem levelOfText_of_not_isMisnamed (h : ¬ IsMisnamed s) :
    ∃ n, StandsFor s n ∧ levelOfText s = .ok n := by
  have hlayout : Text.upper s ≠ "BASIC_FORMAT" := fun hs => h ⟨_, by rw [hs]; exact .layout⟩
  have hlayouts : Text.upper s ≠ "_STYLES" := fun hs => h ⟨_, by rw [hs]; exact .layouts⟩
  exact ⟨_, standsFor_iff.mpr rfl, by simp [levelOfText, hlayout, hlayouts]⟩

end Texts

/-! ### One request -/

section Request

variable {r : NamedRequest}

/-- **A text that is none of the two names sets the log** to the level that it stands for. -/
theorem configure_of_not_isMisnamed (h : ¬ IsMisnamed r.word) (log : Log) :
    (log.configure r.request).2 = .ok () ∧
      ∃ n, StandsFor r.word n ∧ (log.configure r.request).1.IsSetTo n r.request.formatter := by
  obtain ⟨n, hn, hok⟩ := levelOfText_of_not_isMisnamed h
  have hlevel : levelOf r.request.level = .ok (.number n) := congrArg (Level.number <$> ·) hok
  rw [configure, hlevel]
  exact ⟨rfl, n, hn, rfl, rfl, rfl⟩

/-- **One of the two names takes the handlers away** and fails, whatever the log was before. -/
theorem configure_of_misnames {e : Failure} (h : Misnames (Text.upper r.word) e) (log : Log) :
    (log.configure r.request).2 = .error e ∧ (log.configure r.request).1.IsStranded log := by
  have hlevel : levelOf r.request.level = .error e :=
    congrArg (Level.number <$> ·) (levelOfText_of_misnames h)
  rw [configure, hlevel]
  exact ⟨rfl, rfl, rfl, rfl⟩

end Request

/-! ### Runs -/

section Runs

variable {log : Log} {r : NamedRequest} {calls : List NamedRequest}

theorem after_concat (log : Log) (calls : List NamedRequest) (r : NamedRequest) :
    log.after (calls ++ [r]) = ((log.after calls).configure r.request).1 := List.foldl_concat ..

/-- **A run sets the log up exactly if none of its texts is one of the two names.** -/
theorem setsUp_iff : SetsUp log calls ↔ ∀ r ∈ calls, ¬ IsMisnamed r.word := by
  constructor
  · rintro h r hr ⟨e, he⟩
    obtain ⟨earlier, later, hsplit⟩ := List.append_of_mem hr
    have hok := (h earlier r later hsplit).1
    rw [(configure_of_misnames he _).1] at hok
    cases hok
  · intro h earlier r later hsplit
    have hr : r ∈ calls := by simp [hsplit]
    rw [after_concat]
    exact configure_of_not_isMisnamed (h r hr) _

theorem lastNamed_nil (level : Level) : ¬ LastNamed level [] := by
  rintro ⟨earlier, r, later, h, -⟩
  simp at h

theorem lastNamed_cons {level : Level} :
    LastNamed level (r :: calls) ↔ LastNamed level calls ∨
      (¬ IsMisnamed r.word ∧ ∃ n, StandsFor r.word n ∧ level = .number n) ∧
        ∀ x ∈ calls, IsMisnamed x.word := Outcome.exists_last_cons

/-- **The level behind one request**: the one that its text stands for, or the one from before. -/
theorem level_configure_eq_iff {level : Level} :
    (log.configure r.request).1.level = level ↔
      (¬ IsMisnamed r.word ∧ ∃ n, StandsFor r.word n ∧ level = .number n) ∨
        IsMisnamed r.word ∧ log.level = level := by
  by_cases h : IsMisnamed r.word
  · obtain ⟨e, he⟩ := h
    have h' : IsMisnamed r.word := ⟨e, he⟩
    simp [(configure_of_misnames he log).2.level, h']
  · obtain ⟨-, n, hn, hset⟩ := configure_of_not_isMisnamed h log
    rw [hset.level]
    constructor
    · rintro rfl
      exact .inl ⟨h, n, hn, rfl⟩
    · rintro (⟨-, k, hk, rfl⟩ | ⟨h', -⟩)
      · rw [hn.unique hk]
      · exact absurd h' h

/-- **The level behind a run**: the last one that was named, or the one from before. -/
theorem level_after_eq_iff {level : Level} :
    (log.after calls).level = level ↔
      LastNamed level calls ∨ (∀ r ∈ calls, IsMisnamed r.word) ∧ log.level = level := by
  induction calls generalizing log with
  | nil => simp [after, lastNamed_nil]
  | cons r rest ih =>
    have hafter : log.after (r :: rest) = (log.configure r.request).1.after rest := rfl
    rw [hafter, ih, level_configure_eq_iff, lastNamed_cons, List.forall_mem_cons]
    constructor
    · rintro (h | ⟨hrest, h | ⟨hr, h⟩⟩)
      · exact .inl (.inl h)
      · exact .inl (.inr ⟨h, hrest⟩)
      · exact .inr ⟨⟨hr, hrest⟩, h⟩
    · rintro ((h | ⟨h, hrest⟩) | ⟨⟨hr, hrest⟩, h⟩)
      · exact .inl h
      · exact .inr ⟨hrest, .inl h⟩
      · exact .inr ⟨hrest, .inr ⟨hr, h⟩⟩

end Runs

end Log

open Log

/-- **Two names strand the log.** A run of requests by texts sets the log up, request by request,
exactly if none of the texts is one of the two names of what is no level. Behind any run, a request
by another text succeeds and leaves one handler; the log, which passes nothing on, and the handler
have the level that the text stands for. A request by one of the two names fails and leaves the log
without a handler, passing nothing on, at the level from before; so the level is always that of the
last text that is none of the two names. -/
theorem misnamed_levels_strand_log (log : Log) (calls : List NamedRequest) :
    (SetsUp log calls ↔ ∀ r ∈ calls, ¬ IsMisnamed r.word) ∧
    (∀ r : NamedRequest, ¬ IsMisnamed r.word → ((log.after calls).configure r.request).2 = .ok () ∧
      ∃ n, StandsFor r.word n ∧ (log.after (calls ++ [r])).IsSetTo n r.request.formatter) ∧
    (∀ (r : NamedRequest) (e : Failure), Misnames (Text.upper r.word) e →
      ((log.after calls).configure r.request).2 = .error e ∧
        (log.after (calls ++ [r])).IsStranded (log.after calls)) ∧
    ∀ level, (log.after calls).level = level ↔
      LastNamed level calls ∨ (∀ r ∈ calls, IsMisnamed r.word) ∧ log.level = level := by
  refine ⟨setsUp_iff, fun r hr => ?_, fun r e he => ?_, fun level => level_after_eq_iff⟩
  · rw [after_concat]
    exact configure_of_not_isMisnamed hr _
  · rw [after_concat]
    exact configure_of_misnames he _

/-- A log that was set up for debugging has no handler any more behind a request for the level
`basic_format`, and keeps its level. -/
theorem basic_format_strands_log :
    ¬ SetsUp {} [⟨"debug", false, false⟩, ⟨"basic_format", false, false⟩] ∧
      (({} : Log).after
        [⟨"debug", false, false⟩, ⟨"basic_format", false, false⟩]).handlers.length = 0 ∧
      (({} : Log).after
        [⟨"debug", false, false⟩, ⟨"basic_format", false, false⟩]).level = .number 10 := by
  have hname : IsMisnamed "basic_format" := ⟨_, .layout⟩
  refine ⟨fun h => setsUp_iff.mp h ⟨"basic_format", false, false⟩ (by simp) hname, rfl, rfl⟩

end Typestate
