import Mathlib.Data.List.Basic

/-!
# Widgets that wait for answers

A widget listens to a source that was asked a question, and shows the answers
of that source only. When it is given another source it forgets what it showed,
and answers of the sources before still arrive but are not heard. The world
that the answers are about goes on changing; `worlds` are those that there have
been since the current source was asked, kept beside what the widget has. An
answer is made up in one look at the world, or in two of them, after the
question; answers from an older copy of the world are left out.
-/

namespace AsyncBuilder

universe u v w

structure Builder (κ : Type u) (ρ : Type v) (ω : Type w) where
  questions : List κ
  source : Option Nat
  shown : Option ρ
  arriving : List (Nat × ρ)
  worlds : List ω

namespace Builder
variable {κ : Type u} {ρ : Type v} {ω : Type w}

def new : Builder κ ρ ω := ⟨[], none, none, [], []⟩

/-- The widget is given a new source, which is asked `question`. -/
def ask (b : Builder κ ρ ω) (question : κ) (world : ω) : Builder κ ρ ω :=
  ⟨b.questions ++ [question], some b.questions.length, none, b.arriving, [world]⟩

/-- The widget is no longer in the tree. -/
def leave (b : Builder κ ρ ω) : Builder κ ρ ω := ⟨b.questions, none, none, b.arriving, []⟩

def changed (b : Builder κ ρ ω) (world : ω) : Builder κ ρ ω :=
  { b with worlds := b.worlds ++ [world] }

/-- Source `i` answers; the answer has not arrived yet. -/
def answer (b : Builder κ ρ ω) (i : Nat) (r : ρ) : Builder κ ρ ω :=
  { b with arriving := b.arriving ++ [(i, r)] }

/-- An answer arrives; the order in which they do is not fixed. -/
def arrive (b : Builder κ ρ ω) (k : Nat) : Option (Builder κ ρ ω) :=
  match b.arriving[k]? with
  | none => none
  | some (i, r) =>
    if b.source = some i then some { b with shown := some r, arriving := b.arriving.eraseIdx k }
    else some { b with arriving := b.arriving.eraseIdx k }

/-- The question of the current source. -/
def question (b : Builder κ ρ ω) : Option κ :=
  match b.source with
  | none => none
  | some i => b.questions[i]?

/-- What is shown or may come to be shown is an answer to the question of the
current source, as `gives` has it of the worlds there have been since. -/
structure Faithful (gives : List ω → κ → ρ → Prop) (b : Builder κ ρ ω) (world : ω) : Prop where
  asked : ∀ entry ∈ b.arriving, entry.1 < b.questions.length
  arriving : ∀ i question r, b.source = some i → b.questions[i]? = some question →
    (i, r) ∈ b.arriving → gives b.worlds question r
  shown : ∀ question r, b.question = some question → b.shown = some r →
    gives b.worlds question r
  heard : b.shown.isSome = true → b.question.isSome = true
  now : b.source.isSome = true → b.worlds.getLast? = some world

/-- The answer is given in one look at the world. -/
def AtOnce (gives : ω → κ → ρ → Prop) (worlds : List ω) (question : κ) (r : ρ) : Prop :=
  ∃ past ∈ worlds, gives past question r

/-- The answer is given in two looks, the second of which may be later. -/
def InTurn {φ : Type u} (first : ω → κ → φ → Prop) (second : ω → φ → ρ → Prop) (worlds : List ω)
    (question : κ) (r : ρ) : Prop :=
  ∃ before now after x, worlds = before ++ now :: after ∧
    (∃ past ∈ before ++ [now], first past question x) ∧ second now x r

section Rules
variable {gives : List ω → κ → ρ → Prop} {b : Builder κ ρ ω} {world : ω}

theorem faithful_new (world : ω) : Faithful gives (new : Builder κ ρ ω) world where
  asked _ h := absurd h List.not_mem_nil
  arriving _ _ _ h := nomatch h
  shown _ _ h := nomatch h
  heard h := nomatch h
  now h := nomatch h

theorem question_ask (question : κ) : (b.ask question world).question = some question := by
  simp [Builder.question, ask]

/-- No answer to a source can have been under way before it was asked. -/
theorem Faithful.ask (faithful : Faithful gives b world) (question : κ) :
    Faithful gives (b.ask question world) world where
  asked entry hentry := by
    have hlt := faithful.asked entry hentry
    simp only [Builder.ask, List.length_append, List.length_singleton]
    omega
  arriving i q r hsource _ hmem := by
    have hlt := faithful.asked _ hmem
    cases hsource
    exact absurd hlt (Nat.lt_irrefl _)
  shown _ _ _ h := nomatch h
  heard h := nomatch h
  now _ := rfl

theorem Faithful.leave (faithful : Faithful gives b world) : Faithful gives b.leave world where
  asked := faithful.asked
  arriving _ _ _ h := nomatch h
  shown _ _ h := nomatch h
  heard h := nomatch h
  now h := nomatch h

theorem Faithful.changed (faithful : Faithful gives b world) (world' : ω)
    (grows : ∀ question r, gives b.worlds question r → gives (b.worlds ++ [world']) question r) :
    Faithful gives (b.changed world') world' where
  asked := faithful.asked
  arriving i question r hsource hquestion hmem :=
    grows question r (faithful.arriving i question r hsource hquestion hmem)
  shown question r hquestion hshown := grows question r (faithful.shown question r hquestion hshown)
  heard := faithful.heard
  now _ := List.getLast?_concat

theorem Faithful.answer (faithful : Faithful gives b world) {i : Nat} {question : κ} {r : ρ}
    (hquestion : b.questions[i]? = some question)
    (hgives : b.source = some i → gives b.worlds question r) :
    Faithful gives (b.answer i r) world where
  asked entry hentry := by
    rcases List.mem_append.mp hentry with hold | hnew
    · exact faithful.asked entry hold
    · cases List.mem_singleton.mp hnew
      exact (List.getElem?_eq_some_iff.mp hquestion).1
  arriving j question' r' hsource hquestion' hmem := by
    rcases List.mem_append.mp hmem with hold | hnew
    · exact faithful.arriving j question' r' hsource hquestion' hold
    · cases List.mem_singleton.mp hnew
      cases hquestion.symm.trans hquestion'
      exact hgives hsource
  shown := faithful.shown
  heard := faithful.heard
  now := faithful.now

theorem Faithful.arrive (faithful : Faithful gives b world) {k : Nat} {b' : Builder κ ρ ω}
    (h : b.arrive k = some b') : Faithful gives b' world := by
  unfold Builder.arrive at h
  split at h
  · cases h
  · rename_i i r hk
    have rest : ∀ entry ∈ b.arriving.eraseIdx k, entry ∈ b.arriving :=
      fun _ hentry => (List.eraseIdx_sublist _ _).subset hentry
    split at h
    · rename_i hsource
      cases h
      have hlt : i < b.questions.length := faithful.asked _ (List.mem_of_getElem? hk)
      refine ⟨fun entry hentry => faithful.asked entry (rest _ hentry),
        fun j q r' hj hq hmem => faithful.arriving j q r' hj hq (rest _ hmem), ?_, ?_,
        faithful.now⟩
      · intro question r' hquestion hshown
        cases hshown
        have hquestion : b.questions[i]? = some question := by
          simpa [Builder.question, hsource] using hquestion
        exact faithful.arriving i question r hsource hquestion (List.mem_of_getElem? hk)
      · intro _
        simp [Builder.question, hsource, hlt]
    · cases h
      exact ⟨fun entry hentry => faithful.asked entry (rest _ hentry),
        fun j q r' hj hq hmem => faithful.arriving j q r' hj hq (rest _ hmem), faithful.shown,
        faithful.heard, faithful.now⟩

/-- The arrival of an answer changes no question, no source and no world. -/
theorem arrive_kept {k : Nat} {b' : Builder κ ρ ω} (h : b.arrive k = some b') :
    b'.questions = b.questions ∧ b'.source = b.source ∧ b'.worlds = b.worlds ∧
      b'.arriving = b.arriving.eraseIdx k := by
  unfold arrive at h
  split at h
  · cases h
  · split at h
    · cases h
      exact ⟨rfl, rfl, rfl, rfl⟩
    · cases h
      exact ⟨rfl, rfl, rfl, rfl⟩

end Rules

section Looks
variable {b : Builder κ ρ ω} {world : ω}

theorem AtOnce.grows {gives : ω → κ → ρ → Prop} {worlds : List ω} {question : κ} {r : ρ}
    (h : AtOnce gives worlds question r) (world : ω) :
    AtOnce gives (worlds ++ [world]) question r :=
  h.imp (fun _ hpast => ⟨List.mem_append_left _ hpast.1, hpast.2⟩)

/-- A source that looks at the world once may answer what it sees now. -/
theorem Faithful.answerNow {gives : ω → κ → ρ → Prop} (faithful : Faithful (AtOnce gives) b world)
    {i : Nat} {question : κ} {r : ρ} (hquestion : b.questions[i]? = some question)
    (hgives : gives world question r) : Faithful (AtOnce gives) (b.answer i r) world := by
  refine faithful.answer hquestion (fun hsource => ⟨world, ?_, hgives⟩)
  exact List.mem_of_getLast? (faithful.now (by rw [hsource]; rfl))

variable {φ : Type u} {first : ω → κ → φ → Prop} {second : ω → φ → ρ → Prop}

theorem InTurn.grows {worlds : List ω} {question : κ} {r : ρ}
    (h : InTurn first second worlds question r) (world : ω) :
    InTurn first second (worlds ++ [world]) question r := by
  obtain ⟨before, now, after, x, rfl, hfirst, hsecond⟩ := h
  exact ⟨before, now, after ++ [world], x, by simp, hfirst, hsecond⟩

/-- The second look is at the world as it is now. -/
theorem InTurn.now {worlds : List ω} {question : κ} {r : ρ} {x : φ}
    (hnow : worlds.getLast? = some world) (hfirst : ∃ past ∈ worlds, first past question x)
    (hsecond : second world x r) : InTurn first second worlds question r := by
  obtain ⟨before, rfl⟩ := List.getLast?_eq_some_iff.mp hnow
  exact ⟨before, world, [], x, rfl, hfirst, hsecond⟩

end Looks

end Builder

end AsyncBuilder
