import ProxyOperator.Proofs.Instants
import ProxyOperator.Reconcile.Token
/-!
How long a bearer token serves that a pass takes for fresh. The pass is repeated when a new one is due, but not
before a minute is over, and until then other passes present the old one.
-/
namespace ProxyOperator

/-! ## Instants and their nanoseconds -/

namespace Instant

/-- The instant is not in a leap second. -/
def IsPlain (instant : Instant) : Prop := instant.nano < 1000000000

variable {first second : Instant}

instance (instant : Instant) : Decidable instant.IsPlain := inferInstanceAs (Decidable (_ < _))

theorem lt_iff : first < second ↔
    first.second < second.second ∨ first.second = second.second ∧ first.nano < second.nano := by
  change first.before second = true ↔ _
  simp [before]

/-- A leap second has more nanoseconds than some instants after it. -/
theorem lt_of_toNanos_lt (plain : second.IsPlain) (before : first.toNanos < second.toNanos) :
    first < second := by
  unfold IsPlain at plain
  unfold toNanos at before
  rw [lt_iff]
  omega

/-- With a second to spare, leap seconds do not matter. -/
theorem lt_of_toNanos_add_le (before : first.toNanos + 1000000000 ≤ second.toNanos) : first < second := by
  have short := second.nano_supported
  unfold toNanos at before
  rw [lt_iff]
  omega

/-- The years of an instant bound its seconds. -/
theorem second_bounded {instant : Instant} (low : -1 ≤ instant.date.year) (high : instant.date.year ≤ 10000) :
    -100000000000 ≤ instant.second ∧ instant.second ≤ 300000000000 := by
  rcases Date.ofDays_eq (instant.second / 86400) with ⟨year, day, falls, same⟩
  rw [date, same] at low high
  have first : Date.daysBeforeYear (-1) ≤ Date.daysBeforeYear year := Date.daysBeforeYear_mono low
  have last : Date.daysBeforeYear year ≤ Date.daysBeforeYear 10000 := Date.daysBeforeYear_mono high
  have short : Date.yearLength (Date.isLeap year) ≤ 366 := by
    unfold Date.yearLength
    split <;> omega
  have total := falls.total
  have within := falls.within
  simp only [Date.daysBeforeYear, Date.epoch] at first last total
  omega

/-- A timestamp with a year of four digits, wherever on earth, can be moved back by any margin. -/
theorem exists_earlier {instant : Instant} {settings : Settings} (low : -1 ≤ instant.date.year)
    (high : instant.date.year ≤ 10000) :
    ∃ earlier : Instant, earlier.toNanos = instant.toNanos - settings.refreshMargin * 1000000000 := by
  let total := instant.toNanos - settings.refreshMargin * 1000000000
  have bounded : settings.refreshMargin ≤ 31536000 := Nat.min_le_right _ _
  have range : -200000000000 ≤ total / 1000000000 ∧ total / 1000000000 ≤ 400000000000 := by
    have seconds := second_bounded low high
    have fraction := instant.nano_supported
    change _ ≤ (instant.second * 1000000000 + instant.nano - _) / 1000000000 ∧
      (instant.second * 1000000000 + instant.nano - _) / 1000000000 ≤ _
    omega
  have first : firstSecond ≤ -200000000000 := by decide
  have last : 400000000000 ≤ lastSecond := by decide
  have supported : isSupported (total / 1000000000) (total % 1000000000).toNat = true := by
    simp only [isSupported, Bool.and_eq_true, Bool.or_eq_true, decide_eq_true_eq]
    omega
  refine ⟨⟨_, _, supported⟩, ?_⟩
  change total / 1000000000 * 1000000000 + (total % 1000000000).toNat = total
  omega

end Instant

namespace Reconcile.Tokens

/-! ## Passes that leave a token alone -/

/-- The pass asks for nothing, as the bearer token is fresh, and is to be repeated after a delay. -/
def Rests (context : Context) (token : Token) (delay : Nat) : Prop :=
  (reconcile context token).run = .done (.ok (.requeue delay))

/-- Other passes can use the bearer token from the instant of this pass to that of the next one. -/
def Lasts (context : Context) (token : Token) (delay : Nat) : Prop :=
  ∃ bearer, token.status.bind (·.bearer) = some bearer ∧
    ∀ later, context.now ≤ later → later.toNanos ≤ context.now.toNanos + delay →
      token.usableBearer? later = some bearer

/-- The token does not expire in a leap second. -/
def ExpiresPlainly (token : Token) : Prop := ∀ expires ∈ token.status.bind (·.expires), expires.IsPlain

theorem endsWithin_eq_false_iff {expires now : Instant} {margin : Nat} :
    endsWithin expires now margin = false ↔ now < expires ∧
      (0 < margin → now.toNanos < expires.toNanos - margin * nanosPerSecond) := by
  unfold endsWithin nanosPerSecond
  split
  · next none =>
    change decide ¬ now < expires = false ↔ _
    simp [none]
  · next margined =>
    rw [decide_eq_false_iff_not]
    constructor
    · intro early
      exact ⟨Instant.lt_of_toNanos_add_le (by omega), by omega⟩
    · rintro ⟨-, early⟩
      omega

/-- There is a bearer token of the server that the token points to, and it does not expire within the margin. -/
structure Fresh (context : Context) (token : Token) (bearer : String) (expires : Instant) : Prop where
  bears : token.status.bind (·.bearer) = some bearer
  issuer : token.status.bind (·.endpoint) = some token.spec.endpoint
  ends : token.status.bind (·.expires) = some expires
  before : context.now < expires
  early : 0 < context.settings.refreshMargin →
    context.now.toNanos < expires.toNanos - context.settings.refreshMargin * nanosPerSecond

section

variable {context : Context} {token : Token} {delay : Nat} {bearer : String} {expires : Instant}

theorem needsRefresh_eq_false_iff :
    needsRefresh token context.now context.settings.refreshMargin = false ↔
      ∃ bearer expires, Fresh context token bearer expires := by
  unfold needsRefresh
  constructor
  · intro fresh
    split at fresh
    · cases fresh
    · next status known =>
      simp only [Bool.or_eq_false_iff, decide_eq_false_iff_not, not_not] at fresh
      have ⟨⟨bears, issuer⟩, early⟩ := fresh
      split at early
      · cases early
      · next expires ends =>
        rw [Option.isNone_eq_false_iff, Option.isSome_iff_exists] at bears
        rcases bears with ⟨bearer, bears⟩
        have ⟨before, early⟩ := endsWithin_eq_false_iff.mp early
        refine ⟨bearer, expires, ?_, ?_, ?_, before, early⟩ <;> simp [known, bears, issuer, ends]
  · rintro ⟨bearer, expires, bears, issuer, ends, before, early⟩
    cases known : token.status with
    | none =>
        rw [known] at bears
        cases bears
    | some status =>
        rw [known, Option.bind_some] at bears issuer ends
        simp only [bears, issuer, ends, Option.isNone_some, ne_eq, not_true_eq_false, decide_false,
          Bool.or_false, Bool.false_or]
        exact endsWithin_eq_false_iff.mpr ⟨before, early⟩

theorem updateStatus_begins (context : Context) {kind : Kind} (key : ObjectKey)
    (change : kind.Status → kind.Status) :
    ∃ next, (updateStatus context kind key change).run = .ask (.read kind key) next := by
  unfold updateStatus Pass.retry
  cases context.settings.statusRetry.maxAttempts - 1 <;> exact ⟨_, rfl⟩

theorem recordFailure_begins (context : Context) (token : Token) (stopped : StageFailure) : ∃ next,
    (recordFailure context token stopped).run = .ask (.read .token token.metadata.spokenKey) next := by
  have ⟨next, asks⟩ := updateStatus_begins context token.metadata.spokenKey
    (Kind.token.mapConditions <| Condition.markError context.stamp token.metadata.generation
      stopped.stage.reason stopped.failure.message)
  unfold recordFailure
  dsimp only
  rw [asks]
  exact ⟨_, rfl⟩

/-- Where a new bearer token is due, at least the login is looked up, or the failure to do so is recorded. -/
theorem finish_ne_done {succeed : Remote.Grant → Pass Action} {outcome : Except Failure Action} :
    (finish context token (issue token) succeed).run ≠ .done outcome := by
  unfold issue
  dsimp only
  -- Without an endpoint the attempt fails before it asks for anything.
  split
  · have ⟨next, asks⟩ := recordFailure_begins context token
      ⟨.declaration, .invalid Problem.emptyEndpoint.message⟩
    change Program.bind (recordFailure context token ⟨.declaration, .invalid _⟩).run _ ≠ _
    rw [asks]
    exact nofun
  · exact nofun

/-- A token is left alone just if it stays and its bearer token is fresh. -/
theorem rests_iff : Rests context token delay ↔ token.metadata.isDeleting = false ∧
    ∃ bearer expires, Fresh context token bearer expires ∧
      delay = refreshDelay expires context.now context.settings.refreshMargin := by
  unfold Rests reconcile
  dsimp only
  split
  · next deleting =>
    rw [deleting]
    constructor
    · nofun
    · rintro ⟨⟨⟩, _⟩
  · next remains =>
    rw [Bool.not_eq_true] at remains
    split
    · next due =>
      constructor
      · exact fun ended => absurd ended finish_ne_done
      · rintro ⟨-, bearer, expires, fresh, -⟩
        cases due.symm.trans (needsRefresh_eq_false_iff.mpr ⟨bearer, expires, fresh⟩)
    · next idle =>
      rw [Bool.not_eq_true, needsRefresh_eq_false_iff] at idle
      rcases idle with ⟨bearer, expires, fresh⟩
      rw [fresh.ends, Option.getD_some]
      constructor
      · intro ended
        cases ended
        exact ⟨remains, bearer, expires, fresh, rfl⟩
      · rintro ⟨-, _, other, again, rfl⟩
        cases again.ends.symm.trans fresh.ends
        rfl

/-! ## Until the next pass -/

theorem Fresh.usableBearer? (fresh : Fresh context token bearer expires) (later : Instant) :
    token.usableBearer? later = if later < expires then some bearer else none := by
  rcases Option.bind_eq_some_iff.mp fresh.bears with ⟨status, known, bears⟩
  have ends := fresh.ends
  rw [known, Option.bind_some] at ends
  unfold Token.usableBearer? Token.Status.usableBearer?
  rw [known, Option.bind_some, bears, ends]

/-- The bearer token lasts if every instant until the next pass is before its end. -/
theorem Fresh.lasts_iff (fresh : Fresh context token bearer expires) : Lasts context token delay ↔
    ∀ later, context.now ≤ later → later.toNanos ≤ context.now.toNanos + delay → later < expires := by
  simp [Lasts, fresh.bears, fresh.usableBearer?]

/-- The next pass comes when the margin begins, or after the least delay. Without a margin, the way to a leap
second is not told by nanoseconds alone. -/
theorem toNanos_add_refreshDelay {expires now : Instant} {margin : Nat}
    (counted : expires.IsPlain ∨ 0 < margin) :
    now.toNanos + refreshDelay expires now margin =
      max (expires.toNanos - margin * nanosPerSecond) (now.toNanos + leastDelay) := by
  unfold refreshDelay
  dsimp only
  split
  · next none =>
    have plain : ¬ 1000000000 ≤ expires.nano := Nat.not_le_of_lt (counted.resolve_right (by omega))
    unfold Instant.nanosUntil
    simp only [plain, none, false_and, if_false]
    omega
  · omega

/-- Leap seconds aside, the bearer token lasts if it ends after the next pass. -/
theorem Fresh.lasts_iff_next (fresh : Fresh context token bearer expires) (plain : expires.IsPlain) :
    Lasts context token delay ↔ context.now.toNanos + delay < expires.toNanos := by
  rw [fresh.lasts_iff]
  constructor
  · intro serves
    by_contra late
    -- The end itself is an instant at which it cannot be used any more.
    have begun : context.now ≤ expires := by
      have before := fresh.before
      intro past
      rw [Instant.lt_iff] at before past
      omega
    have before := serves expires begun (by omega)
    rw [Instant.lt_iff] at before
    omega
  · exact fun before later _ within => Instant.lt_of_toNanos_lt plain (by omega)

/-- With a margin, a bearer token lasts if its end is more than the least delay ahead. -/
theorem Fresh.lasts_iff_least (fresh : Fresh context token bearer expires) (plain : expires.IsPlain) :
    Lasts context token (refreshDelay expires context.now context.settings.refreshMargin) ↔
      0 < context.settings.refreshMargin ∧ context.now.toNanos + leastDelay < expires.toNanos := by
  rw [fresh.lasts_iff_next plain, toNanos_add_refreshDelay (.inl plain)]
  unfold nanosPerSecond
  omega

theorem Fresh.lasts_of_le (fresh : Fresh context token bearer expires) (plain : expires.IsPlain)
    (enough : 60 ≤ context.settings.refreshMargin) :
    Lasts context token (refreshDelay expires context.now context.settings.refreshMargin) := by
  have early := fresh.early (by omega)
  rw [fresh.lasts_iff_least plain]
  unfold nanosPerSecond at early
  unfold leastDelay
  omega

/-- A margin of more than the least delay has a second to spare. -/
theorem Fresh.lasts_of_lt (fresh : Fresh context token bearer expires)
    (ample : 60 < context.settings.refreshMargin) :
    Lasts context token (refreshDelay expires context.now context.settings.refreshMargin) := by
  have early := fresh.early (by omega)
  have next : context.now.toNanos + refreshDelay expires context.now context.settings.refreshMargin = _ :=
    toNanos_add_refreshDelay (.inr (by omega))
  unfold nanosPerSecond at early next
  unfold leastDelay at next
  rw [fresh.lasts_iff]
  intro later _ within
  apply Instant.lt_of_toNanos_add_le
  omega

end

namespace Sample

def context (settings : Settings) (now : Instant) : Context := ⟨settings, now, now⟩

def token (expires : Instant) : Token :=
  ⟨default, ⟨"http://npm.proxy:81", default⟩,
    some ⟨some "bearer", some expires, some "http://npm.proxy:81", []⟩⟩

def minute : Instant := ⟨60, 0, by decide⟩

/-- An instant in the first second of the epoch, one in a leap second before the minute is over, and one a minute
after the first. -/
def start : Instant := ⟨0, 300000000, by decide⟩

def leap : Instant := ⟨59, 1500000000, by decide⟩

def afterLeap : Instant := ⟨60, 300000000, by decide⟩

variable {settings : Settings} {now expires : Instant}

theorem fresh (before : now < expires)
    (early : now.toNanos < expires.toNanos - settings.refreshMargin * nanosPerSecond) :
    Fresh (context settings now) (token expires) "bearer" expires :=
  ⟨rfl, rfl, rfl, before, fun _ => early⟩

theorem rests (fresh : Fresh (context settings now) (token expires) "bearer" expires) :
    Rests (context settings now) (token expires)
      (refreshDelay expires now settings.refreshMargin) :=
  rests_iff.mpr ⟨rfl, _, _, fresh, rfl⟩

/-- A bearer token that expires after a minute does not last. -/
theorem lapses (brief : settings.refreshMargin < 60) : ∃ delay,
    Rests (context settings .epoch) (token minute) delay ∧
      ¬ Lasts (context settings .epoch) (token minute) delay := by
  have early : Instant.epoch.toNanos < minute.toNanos - settings.refreshMargin * nanosPerSecond := by
    change (0 : Int) < 60000000000 - _ * 1000000000
    omega
  have fresh := fresh (by decide) early
  refine ⟨_, rests fresh, ?_⟩
  have next := fresh.lasts_iff_least (by decide)
  have late : ¬ Instant.epoch.toNanos + leastDelay < minute.toNanos := by decide
  exact fun lasts => late (next.mp lasts).2

/-- Even if the margin is a minute, the leap second is over when the next pass comes. -/
theorem lapses_leap (brief : settings.refreshMargin ≤ 60) : ∃ delay,
    Rests (context settings start) (token leap) delay ∧
      ¬ Lasts (context settings start) (token leap) delay := by
  have early : start.toNanos < leap.toNanos - settings.refreshMargin * nanosPerSecond := by
    change (300000000 : Int) < 60500000000 - _ * 1000000000
    omega
  have fresh := fresh (by decide) early
  refine ⟨_, rests fresh, ?_⟩
  have begun : start ≤ afterLeap := by decide
  have gone : ¬ afterLeap < leap := by decide
  have reached : afterLeap.toNanos = start.toNanos + leastDelay := by decide
  have least : leastDelay ≤ refreshDelay leap start settings.refreshMargin := Nat.le_max_right _ _
  have within : afterLeap.toNanos ≤ start.toNanos + refreshDelay leap start settings.refreshMargin := by
    omega
  exact fun lasts => gone (fresh.lasts_iff.mp lasts afterLeap begun within)

end Sample

/-- How long bearer tokens last that are left alone. Leap seconds aside, one lasts until the next pass just if there
is a margin and its end is more than a minute ahead; all of them do so just if the margin is a minute or more. If
bearer tokens may expire in leap seconds, it has to be more than a minute. No margin is too long for the calendar. -/
theorem rests_lasts_iff (settings : Settings) :
    (∀ context token delay, context.settings = settings → Rests context token delay →
      ∀ expires ∈ token.status.bind (·.expires), expires.IsPlain →
        (Lasts context token delay ↔
          0 < settings.refreshMargin ∧ context.now.toNanos + leastDelay < expires.toNanos)) ∧
    ((∀ context token delay, context.settings = settings → ExpiresPlainly token →
      Rests context token delay → Lasts context token delay) ↔ 60 ≤ settings.refreshMargin) ∧
    ((∀ context token delay, context.settings = settings → Rests context token delay →
      Lasts context token delay) ↔ 60 < settings.refreshMargin) ∧
    ∀ expires : Instant, -1 ≤ expires.date.year → expires.date.year ≤ 10000 →
      ∃ earlier : Instant,
        earlier.toNanos = expires.toNanos - settings.refreshMargin * nanosPerSecond := by
  refine ⟨?_, ⟨?_, ?_⟩, ⟨?_, ?_⟩, fun _ => Instant.exists_earlier⟩
  · rintro context token delay rfl rests expires ends plain
    rcases rests_iff.mp rests with ⟨-, bearer, other, fresh, rfl⟩
    cases ends.symm.trans fresh.ends
    exact fresh.lasts_iff_least plain
  · intro lasts
    by_contra brief
    rcases Sample.lapses (Nat.lt_of_not_le brief) with ⟨delay, rests, lapses⟩
    refine lapses (lasts _ _ _ rfl ?_ rests)
    rintro _ ⟨⟩
    decide
  · rintro enough context token delay rfl plainly rests
    rcases rests_iff.mp rests with ⟨-, bearer, expires, fresh, rfl⟩
    exact fresh.lasts_of_le (plainly _ fresh.ends) enough
  · intro lasts
    by_contra brief
    rcases Sample.lapses_leap (Nat.le_of_not_lt brief) with ⟨delay, rests, lapses⟩
    exact lapses (lasts _ _ _ rfl rests)
  · rintro ample context token delay rfl rests
    rcases rests_iff.mp rests with ⟨-, bearer, expires, fresh, rfl⟩
    exact fresh.lasts_of_lt ample

namespace Sample

def twoHours : Instant := ⟨7200, 0, by decide⟩

end Sample

/-- With the standard margin, a bearer token that expires after two hours is left alone for one, and lasts. -/
theorem rests_lasts_iff_standard :
    Rests (Sample.context .standard .epoch) (Sample.token Sample.twoHours) 3600000000000 ∧
      Lasts (Sample.context .standard .epoch) (Sample.token Sample.twoHours) 3600000000000 := by
  have rests : Rests (Sample.context .standard .epoch) (Sample.token Sample.twoHours) 3600000000000 :=
    Sample.rests (Sample.fresh (by decide) (by decide))
  exact ⟨rests, (rests_lasts_iff .standard).2.2.1.mpr (by decide) _ _ _ rfl rests⟩

namespace Sample

def unprepared : Settings := { Settings.standard with refreshMarginSeconds := 0 }

def halfway : Instant := ⟨30, 0, by decide⟩

end Sample

/-- Without a margin, a bearer token that expires after half a minute is left alone for a whole one. -/
theorem rests_half_minute :
    Rests (Sample.context Sample.unprepared .epoch) (Sample.token Sample.halfway) leastDelay ∧
      Sample.halfway.toNanos ≤ Instant.epoch.toNanos + leastDelay ∧
      (Sample.token Sample.halfway).usableBearer? Sample.halfway = none := by
  have early : Instant.epoch.toNanos <
      Sample.halfway.toNanos - Sample.unprepared.refreshMargin * nanosPerSecond := by decide
  have fresh := Sample.fresh (by decide) early
  refine ⟨Sample.rests fresh, by decide, ?_⟩
  rw [fresh.usableBearer?]
  exact if_neg (by decide)

end Reconcile.Tokens

end ProxyOperator
