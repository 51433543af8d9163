import Mathlib.Data.List.Basic
import Mathlib.Data.List.Chain
import TreeLint.Glob

/-!
# What patterns match

What a pattern matches is a relation between its parts and texts (`Glob.Matches`), which says nothing about
how a match is looked for. **The law** (`Glob.Pattern.isMatch_iff`): a pattern that was read from a text is
found to match exactly the texts that its parts match.

Looking for a match gives up for good when a text is too short, although other places are still to be
tried. That this loses nothing is not true of all lists of parts. It is if directories stand only at the
front, behind a slash or behind directories (`Glob.Aligned`), and reading a pattern sees to that
(`Glob.aligned_of_compile`): then the places that are left to try are among those that were too short
already (`Glob.Decides`).
-/

namespace TreeLint.Glob

/-! ## Matching as a relation -/

/-- **What the parts of a pattern match**, from the first to the last and all of the text. -/
inductive Matches : List Token → List Char → Prop
  | done : Matches [] []
  /-- A part that stands for one character. -/
  | one {token : Token} {tokens : List Token} {c : Char} {text : List Char} :
      token.accepts c = true → Matches tokens text → Matches (token :: tokens) (c :: text)
  /-- A star skips any characters. -/
  | run {tokens : List Token} {text : List Char} (skipped : List Char) :
      Matches tokens text → Matches (.anyRun :: tokens) (skipped ++ text)
  /-- Two stars skip nothing, -/
  | here {tokens : List Token} {text : List Char} :
      Matches tokens text → Matches (.anyDirectories :: tokens) text
  /-- or directories up to a slash, -/
  | behind {tokens : List Token} {text : List Char} (skipped : List Char) :
      Matches tokens text → Matches (.anyDirectories :: tokens) (skipped ++ '/' :: text)
  /-- or all that is left. -/
  | atEnd {tokens : List Token} (skipped : List Char) :
      Matches tokens [] → Matches (.anyDirectories :: tokens) skipped

/-- A text that is left when some of a text is skipped: all or nothing of it, or what is behind one of its
characters, or behind one of its slashes. -/
def Skips (slashOnly : Bool) (text left : List Char) : Prop :=
  left = text ∨ left = [] ∨ ∃ before c, text = before ++ c :: left ∧ (slashOnly = true → c = '/')

/-- The part that skips characters, or only directories. -/
def wild (slashOnly : Bool) : Token :=
  if slashOnly then .anyDirectories else .anyRun

/-- A part that skips matches if the others match what it leaves. -/
theorem matches_wild_iff {slashOnly : Bool} {tokens : List Token} {text : List Char} :
    Matches (wild slashOnly :: tokens) text ↔ ∃ left, Skips slashOnly text left ∧ Matches tokens left := by
  cases slashOnly with
  | false =>
    constructor
    · intro h
      cases h with
      | one haccepts _ => cases haccepts
      | @run _ left skipped h =>
        refine ⟨left, ?_, h⟩
        cases skipped using List.reverseRecOn with
        | nil => exact .inl rfl
        | append_singleton before c => exact .inr (.inr ⟨before, c, by simp, nofun⟩)
    · rintro ⟨left, rfl | rfl | ⟨before, c, rfl, _⟩, h⟩
      · exact .run [] h
      · have := Matches.run text h
        rwa [List.append_nil] at this
      · have := Matches.run (before ++ [c]) h
        rwa [List.append_assoc] at this
  | true =>
    constructor
    · intro h
      cases h with
      | one haccepts _ => cases haccepts
      | here h => exact ⟨text, .inl rfl, h⟩
      | @behind _ left skipped h => exact ⟨left, .inr (.inr ⟨skipped, '/', rfl, fun _ => rfl⟩), h⟩
      | atEnd _ h => exact ⟨[], .inr (.inl rfl), h⟩
    · rintro ⟨left, rfl | rfl | ⟨before, c, rfl, hslash⟩, h⟩
      · exact .here h
      · exact .atEnd text h
      · rw [hslash rfl]
        exact .behind before h

/-- What is left of what is left is left. -/
theorem Skips.trans {slashOnly : Bool} {text middle left : List Char} (h : Skips slashOnly text middle)
    (h' : Skips slashOnly middle left) : Skips slashOnly text left := by
  rcases h' with rfl | rfl | ⟨before, c, rfl, hc⟩
  · exact h
  · exact .inr (.inl rfl)
  · rcases h with rfl | hnil | ⟨front, d, rfl, _⟩
    · exact .inr (.inr ⟨before, c, rfl, hc⟩)
    · exact absurd hnil (List.append_ne_nil_of_right_ne_nil _ (List.cons_ne_nil _ _))
    · exact .inr (.inr ⟨front ++ d :: before, c, by simp, hc⟩)

/-- What is left behind a slash is also left behind a character. -/
theorem Skips.anywhere {slashOnly : Bool} {text left : List Char} (h : Skips slashOnly text left) :
    Skips false text left := by
  rcases h with rfl | rfl | ⟨before, c, rfl, _⟩
  · exact .inl rfl
  · exact .inr (.inl rfl)
  · exact .inr (.inr ⟨before, c, rfl, nofun⟩)

/-! ## Places that are tried -/

/-- The places behind characters of a text, or behind its slashes, and its end. -/
def laterPlaces (slashOnly : Bool) : List Char → List (List Char)
  | [] => [[]]
  | c :: text =>
    if slashOnly && c != '/' then laterPlaces slashOnly text else text :: laterPlaces slashOnly text

/-- The places at which the rest of a pattern is tried, in order. -/
def places (slashOnly : Bool) (text : List Char) : List (List Char) :=
  text :: laterPlaces slashOnly text

/-- The first outcome that decides. -/
def decided : List Outcome → Outcome
  | [] => .notHere
  | .notHere :: more => decided more
  | outcome :: _ => outcome

theorem sweep_eq_decided (slashOnly : Bool) (rest : List Char → Outcome) (text : List Char) :
    sweep slashOnly rest text = decided ((laterPlaces slashOnly text).map rest) := by
  induction text with
  | nil =>
    rw [sweep, laterPlaces, List.map_singleton]
    cases rest [] <;> rfl
  | cons c text ih =>
    rw [sweep, laterPlaces]
    split
    · exact ih
    · rw [List.map_cons]
      cases rest text <;> first | rfl | exact ih

/-- **Looking for a match is trying one place after the other.** -/
theorem search_eq_decided (slashOnly : Bool) (rest : List Char → Outcome) (text : List Char) :
    search slashOnly rest text = decided ((places slashOnly text).map rest) := by
  rw [search, places, List.map_cons, sweep_eq_decided]
  cases rest text <;> rfl

theorem mem_laterPlaces {slashOnly : Bool} {text left : List Char} :
    left ∈ laterPlaces slashOnly text ↔
      left = [] ∨ ∃ before c, text = before ++ c :: left ∧ (slashOnly = true → c = '/') := by
  induction text with
  | nil => simp [laterPlaces]
  | cons c text ih =>
    have hsplit : (∃ before d, c :: text = before ++ d :: left ∧ (slashOnly = true → d = '/')) ↔
        (left = text ∧ (slashOnly = true → c = '/')) ∨
          ∃ before d, text = before ++ d :: left ∧ (slashOnly = true → d = '/') := by
      constructor
      · rintro ⟨before, d, heq, hd⟩
        cases before with
        | nil =>
          cases heq
          exact .inl ⟨rfl, hd⟩
        | cons first before =>
          cases heq
          exact .inr ⟨before, d, rfl, hd⟩
      · rintro (⟨rfl, hc⟩ | ⟨before, d, rfl, hd⟩)
        · exact ⟨[], c, rfl, hc⟩
        · exact ⟨c :: before, d, rfl, hd⟩
    rw [laterPlaces, hsplit]
    split
    · next hno =>
      have hslash : ¬ (slashOnly = true → c = '/') := by simpa using hno
      simp only [ih, hslash, and_false, false_or]
    · next hyes =>
      have hslash : slashOnly = true → c = '/' := by simpa using hyes
      rw [List.mem_cons, ih, and_iff_left hslash]
      exact or_left_comm

theorem mem_places {slashOnly : Bool} {text left : List Char} :
    left ∈ places slashOnly text ↔ Skips slashOnly text left := by
  rw [places, List.mem_cons, mem_laterPlaces]
  rfl

/-- A place is left when one that is tried before is. -/
theorem places_pairwise (slashOnly : Bool) (text : List Char) :
    (places slashOnly text).Pairwise (Skips slashOnly) := by
  refine List.pairwise_cons.mpr ⟨fun left hmem => .inr (mem_laterPlaces.mp hmem), ?_⟩
  induction text with
  | nil => exact List.pairwise_singleton _ _
  | cons c text ih =>
    rw [laterPlaces]
    split
    · exact ih
    · exact List.pairwise_cons.mpr ⟨fun left hmem => .inr (mem_laterPlaces.mp hmem), ih⟩

/-- The outcome is a match if there is one, unless a text that is too short comes before it. -/
theorem decided_eq_found_iff {outcomes : List Outcome}
    (h : outcomes.Pairwise fun first second => first = .tooShort → second ≠ .found) :
    decided outcomes = .found ↔ .found ∈ outcomes := by
  induction outcomes with
  | nil => simp [decided]
  | cons outcome more ih =>
    obtain ⟨hfirst, hmore⟩ := List.pairwise_cons.mp h
    cases outcome with
    | found => simp [decided]
    | notHere => simp [decided, ih hmore]
    | tooShort =>
      have hnone : Outcome.found ∉ more := fun hmem => hfirst _ hmem rfl rfl
      simp [decided, hnone]

/-! ## The law for lists of parts -/

/-- **Directories stand only at the front, behind a slash, or behind directories.** -/
def Aligned (tokens : List Token) : Prop :=
  tokens.IsChain fun token next => next = .anyDirectories → token = .char '/' ∨ token = .anyDirectories

/-- Whether a list of parts starts with directories. -/
def startsWide (tokens : List Token) : Bool :=
  tokens.head? == some .anyDirectories

theorem Aligned.tail {token : Token} {tokens : List Token} (h : Aligned (token :: tokens)) :
    Aligned tokens :=
  h.of_cons

/-- In front of parts that start with directories stand a slash or directories. -/
theorem Aligned.front {token : Token} {tokens : List Token} (h : Aligned (token :: tokens))
    (hwide : startsWide tokens = true) : token = .char '/' ∨ token = .anyDirectories := by
  cases tokens with
  | nil => cases hwide
  | cons next tokens =>
    have hnext : next = .anyDirectories := by simpa [startsWide] using hwide
    exact (List.isChain_cons_cons.mp h).1 hnext

/-- **Parts are decided**: a match is found exactly if there is one, and if a text is too short, so is what
is left of it. If the parts start with directories, only what is left behind a slash counts. -/
def Decides (tokens : List Token) : Prop :=
  ∀ text, (matchTokens tokens text = .found ↔ Matches tokens text) ∧
    (matchTokens tokens text = .tooShort →
      ∀ left, Skips (startsWide tokens) text left → ¬ Matches tokens left)

theorem matchTokens_wild (slashOnly : Bool) (tokens : List Token) (text : List Char) :
    matchTokens (wild slashOnly :: tokens) text = search slashOnly (matchTokens tokens) text := by
  cases slashOnly <;> exact matchTokens.eq_def _ _

theorem startsWide_wild (slashOnly : Bool) (tokens : List Token) :
    startsWide (wild slashOnly :: tokens) = slashOnly := by
  cases slashOnly <;> rfl

/-- A part that skips, in front of parts that are decided. -/
theorem Decides.wild {slashOnly : Bool} {tokens : List Token} (decides : Decides tokens)
    (aligned : Aligned (Glob.wild slashOnly :: tokens)) : Decides (Glob.wild slashOnly :: tokens) := by
  -- only directories stand in front of directories here, so a place that is left of another is one that
  -- the rest of the parts gives up for
  have hgives : ∀ {text left : List Char}, Skips slashOnly text left →
      Skips (startsWide tokens) text left := by
    intro text left h
    cases hwide : startsWide tokens with
    | false => exact h.anywhere
    | true =>
      cases slashOnly with
      | true => exact h
      | false => rcases aligned.front hwide with h | h <;> cases h
  have hfound : ∀ text, matchTokens (Glob.wild slashOnly :: tokens) text = .found ↔
      ∃ left, Skips slashOnly text left ∧ Matches tokens left := by
    intro text
    have horder : ((places slashOnly text).map (matchTokens tokens)).Pairwise fun first second =>
        first = .tooShort → second ≠ .found := by
      refine List.pairwise_map.mpr ((places_pairwise slashOnly text).imp fun hskips hshort hfound => ?_)
      exact (decides _).2 hshort _ (hgives hskips) ((decides _).1.mp hfound)
    rw [matchTokens_wild, search_eq_decided, decided_eq_found_iff horder, List.mem_map]
    simp only [mem_places, (decides _).1]
  intro text
  rw [matches_wild_iff]
  refine ⟨hfound text, fun hshort left hskips hmatches => ?_⟩
  rw [startsWide_wild] at hskips
  obtain ⟨rest, hrest, hmatches⟩ := matches_wild_iff.mp hmatches
  have := (hfound text).mpr ⟨rest, hskips.trans hrest, hmatches⟩
  rw [hshort] at this
  cases this

theorem matches_one_iff {token : Token} (hwild : ∀ slashOnly, token ≠ wild slashOnly)
    {tokens : List Token} {text : List Char} :
    Matches (token :: tokens) text ↔
      ∃ c rest, text = c :: rest ∧ token.accepts c = true ∧ Matches tokens rest := by
  constructor
  · intro h
    cases h with
    | one haccepts h => exact ⟨_, _, rfl, haccepts, h⟩
    | run _ _ => exact absurd rfl (hwild false)
    | here _ => exact absurd rfl (hwild true)
    | behind _ _ => exact absurd rfl (hwild true)
    | atEnd _ _ => exact absurd rfl (hwild true)
  · rintro ⟨c, rest, rfl, haccepts, h⟩
    exact .one haccepts h

theorem matchTokens_one {token : Token} (hwild : ∀ slashOnly, token ≠ wild slashOnly)
    (tokens : List Token) (text : List Char) :
    matchTokens (token :: tokens) text = match text with
      | [] => .tooShort
      | c :: rest => if token.accepts c then matchTokens tokens rest else .notHere := by
  cases token with
  | anyRun => exact absurd rfl (hwild false)
  | anyDirectories => exact absurd rfl (hwild true)
  | _ => cases text <;> rfl

/-- A part that stands for one character, in front of parts that are decided. -/
theorem Decides.one {token : Token} (hwild : ∀ slashOnly, token ≠ Glob.wild slashOnly)
    {tokens : List Token} (decides : Decides tokens) (aligned : Aligned (token :: tokens)) :
    Decides (token :: tokens) := by
  have hnarrow : startsWide (token :: tokens) = false := by
    have hdirectories : token ≠ .anyDirectories := hwild true
    simpa [startsWide] using hdirectories
  intro text
  rw [matchTokens_one hwild, matches_one_iff hwild, hnarrow]
  cases text with
  | nil =>
    refine ⟨⟨nofun, fun ⟨_, _, h, _⟩ => (nomatch h)⟩, fun _ left hskips hmatches => ?_⟩
    obtain ⟨c, rest, rfl, _⟩ := (matches_one_iff hwild).mp hmatches
    rcases hskips with h | h | ⟨before, d, h, _⟩
    · cases h
    · cases h
    · exact absurd h.symm (List.append_ne_nil_of_right_ne_nil _ (List.cons_ne_nil _ _))
  | cons c text =>
    dsimp only
    split
    · next haccepts =>
      constructor
      · rw [(decides text).1]
        constructor
        · exact fun h => ⟨c, text, rfl, haccepts, h⟩
        · rintro ⟨_, _, heq, _, h⟩
          cases heq
          exact h
      · intro hshort left hskips hmatches
        obtain ⟨d, rest, rfl, hd, hrest⟩ := (matches_one_iff hwild).mp hmatches
        refine (decides text).2 hshort rest ?_ hrest
        -- what is behind the character is left of what is behind the first one, and behind a slash if the
        -- part stands for a slash
        have hslash : startsWide tokens = true → d = '/' := by
          intro hwide
          rcases aligned.front hwide with rfl | rfl
          · exact (beq_iff_eq.mp hd).symm
          · exact absurd rfl (hwild true)
        rcases hskips with heq | heq | ⟨before, e, heq, _⟩
        · cases heq
          exact .inl rfl
        · cases heq
        · cases before with
          | nil =>
            cases heq
            exact .inr (.inr ⟨[], d, rfl, hslash⟩)
          | cons first before =>
            cases heq
            exact .inr (.inr ⟨before ++ [e], d, by simp, hslash⟩)
    · next hrejects =>
      refine ⟨⟨nofun, ?_⟩, nofun⟩
      rintro ⟨_, _, heq, haccepts, _⟩
      cases heq
      exact absurd haccepts hrejects

/-- **Aligned parts are decided.** -/
theorem decides_of_aligned : ∀ {tokens : List Token}, Aligned tokens → Decides tokens
  | [], _ => by
    intro text
    cases text with
    | nil => exact ⟨⟨fun _ => .done, fun _ => rfl⟩, nofun⟩
    | cons c text => exact ⟨⟨nofun, nofun⟩, nofun⟩
  | token :: tokens, aligned => by
    have decides := decides_of_aligned aligned.tail
    by_cases hwild : ∃ slashOnly, token = wild slashOnly
    · obtain ⟨slashOnly, rfl⟩ := hwild
      exact decides.wild aligned
    · exact decides.one (fun slashOnly h => hwild ⟨slashOnly, h⟩) aligned

/-! ## Patterns that were read -/

/-- **What reading a pattern keeps**, with the parts so far in reverse: they are aligned, nothing is read at
the start, and where the character before is a slash, the last part is a slash or directories. -/
structure Ready (done : List Token) (position : Nat) (previous : Option Char) : Prop where
  aligned : Aligned done.reverse
  start : position = 0 → done = []
  slash : previous = some '/' → ∀ last ∈ done.head?, last = .char '/' ∨ last = .anyDirectories

variable {done : List Token} {position after : Nat} {previous before : Option Char}

/-- Reading a part that is not directories. -/
theorem Ready.push (ready : Ready done position previous) {token : Token} (hplain : token ≠ .anyDirectories)
    (hafter : after ≠ 0) (hslash : before = some '/' → token = .char '/') :
    Ready (token :: done) after before where
  aligned := by
    refine List.isChain_reverse.mpr (List.isChain_cons.mpr ⟨fun _ _ h => absurd h hplain, ?_⟩)
    exact List.isChain_reverse.mp ready.aligned
  start h := absurd h hafter
  slash h last hlast := by
    cases hlast
    exact .inl (hslash h)

/-- Reading directories, at the start or behind a slash. -/
theorem Ready.pushDirectories (ready : Ready done position previous)
    (hhere : position = 0 ∨ previous = some '/') (hafter : after ≠ 0) :
    Ready (Glob.pushDirectories done) after before := by
  have hlast : ∀ last ∈ done.head?, last = .char '/' ∨ last = .anyDirectories := by
    rcases hhere with h | h
    · rw [ready.start h]
      nofun
    · exact ready.slash h
  unfold Glob.pushDirectories
  split
  · refine ⟨ready.aligned, fun h => absurd h hafter, fun _ last hmem => ?_⟩
    cases hmem
    exact .inr rfl
  · refine ⟨?_, fun h => absurd h hafter, fun _ last hmem => ?_⟩
    · refine List.isChain_reverse.mpr (List.isChain_cons.mpr ⟨fun last hmem _ => hlast last hmem, ?_⟩)
      exact List.isChain_reverse.mp ready.aligned
    · cases hmem
      exact .inr rfl

theorem ne_anyDirectories_of_readClass? {text rest : List Char} {token : Token}
    (h : readClass? text = some (token, rest)) : token ≠ .anyDirectories := by
  unfold readClass? at h
  split at h
  all_goals
    obtain ⟨_, _, heq⟩ := Option.map_eq_some_iff.mp h
    cases heq
    nofun

/-- **Reading a pattern keeps its parts aligned.** -/
theorem aligned_of_readTokens {fuel : Nat} {text : List Char} {tokens : List Token}
    (ready : Ready done position previous)
    (h : readTokens fuel done position previous text = .ok tokens) : Aligned tokens := by
  induction fuel generalizing done position previous text with
  | zero =>
    cases h
    exact ready.aligned
  | succ fuel ih =>
    cases text with
    | nil =>
      cases h
      exact ready.aligned
    | cons c rest =>
      rw [readTokens] at h
      dsimp only at h
      split at h
      · next hc =>
        subst hc
        refine ih ?_ h
        exact ready.push nofun (Nat.succ_ne_zero _) nofun
      split at h
      · -- one star is any run, two are directories, and more are refused
        split at h
        · cases h
        split at h
        · split at h
          · next hhere =>
            split at h
            · exact ih (ready.pushDirectories hhere (Nat.succ_ne_zero _)) h
            · split at h
              · exact ih (ready.pushDirectories hhere (Nat.succ_ne_zero _)) h
              · cases h
          · cases h
        · refine ih ?_ h
          exact ready.push nofun (Nat.succ_ne_zero _) nofun
      split at h
      · split at h
        · next token after hclass =>
          refine ih ?_ h
          exact ready.push (ne_anyDirectories_of_readClass? hclass) (by omega) nofun
        · cases h
      · refine ih ?_ h
        refine ready.push nofun (Nat.succ_ne_zero _) fun hslash => ?_
        rw [Option.some.inj hslash]

theorem aligned_of_compile {text : String} {pattern : Pattern} (h : Pattern.compile text = .ok pattern) :
    Aligned pattern.tokens := by
  unfold Pattern.compile at h
  split at h
  · next tokens hread =>
    cases h
    have ready : Ready [] 0 none := ⟨List.isChain_nil, fun _ => rfl, nofun⟩
    exact aligned_of_readTokens ready hread
  · cases h

/-- **A pattern that was read is found to match exactly what its parts match.** -/
theorem Pattern.isMatch_iff {text : String} {pattern : Pattern} (h : Pattern.compile text = .ok pattern)
    (path : String) : pattern.isMatch path = true ↔ Matches pattern.tokens path.toList := by
  unfold isMatch
  rw [beq_iff_eq]
  exact (decides_of_aligned (aligned_of_compile h) path.toList).1

end TreeLint.Glob
