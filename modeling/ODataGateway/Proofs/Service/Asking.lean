/-
# ODataGateway.Proofs.Service.Asking — what comes of asking the source.

One reply ends an exchange or leads to another address (`Source.step_cases`).  How often the asker is
sent on is bounded, and by induction on that bound the reply that ends the exchange is the first that
does not lead on, if the bound allows for so many (`Source.result_follow_iff`), and there is one
request for each reply up to it, as long as requests get through (`Source.lt_length_follow_iff`).

So what the source does falls into four kinds: it brings items, it is late, it refuses with a status
that is no success, or something else goes wrong.  Nothing but what is done with the requests and
which address is set decides between them.
-/
import ODataGateway.Service.Source

namespace ODataGateway.Source

/-! ## Replies -/

/-- The reply has an answer that is handed over: it names no other address to ask. -/
def Hands (r : Reply) (m : Message) : Prop := r.answer? = some m ∧ m.next? = none

/-- The reply has an answer that names another address to ask. -/
def LeadsTo (r : Reply) (url : Url) : Prop := ∃ m, r.answer? = some m ∧ m.next? = some url

/-- Nothing that answers comes in time. -/
def Stalls : Reply → Prop
  | .unconnected => True
  | .sends messages => ∀ m ∈ messages, isInterim m.status = true
  | .unreachable | .breaks _ => False

/-- The reply sends the asker on, to an address that can be asked. -/
def SendsOn (r : Reply) : Prop := ∃ url, LeadsTo r url ∧ isAskable url = true

/-- The first replies all send the asker on. -/
def Led (d : Delivery) (n : Nat) : Prop := ∀ i < n, SendsOn (d i)

/-- A reply of a kind comes before the asker was sent on too often. -/
def Arrives (P : Reply → Prop) (hops : Nat) (d : Delivery) : Prop := ∃ n ≤ hops, Led d n ∧ P (d n)

section

variable {settings : Settings} {d : Delivery} {r : Reply} {m : Message} {c c' : Call} {url : Url}
  {hops n : Nat}

theorem LeadsTo.unique {other : Url} (h : LeadsTo r url) (h' : LeadsTo r other) : url = other := by
  obtain ⟨m, answered, next⟩ := h
  obtain ⟨m', answered', next'⟩ := h'
  obtain rfl : m = m' := Option.some.inj (answered.symm.trans answered')
  exact Option.some.inj (next.symm.trans next')

theorem LeadsTo.isReceived (h : LeadsTo r url) : r.isReceived = true := by
  obtain ⟨m, answered, -⟩ := h
  cases r with
  | unreachable => cases answered
  | unconnected => cases answered
  | sends messages => rfl
  | breaks messages => rfl

theorem Stalls.answer?_eq_none (h : Stalls r) : r.answer? = none := by
  cases r with
  | unreachable => exact h.elim
  | unconnected => rfl
  | sends messages =>
    refine List.find?_eq_none.mpr fun m member => ?_
    rw [h m member]
    exact Bool.false_ne_true
  | breaks messages => exact h.elim

/-- Without an answer, it is too late just where the reply stalls. -/
theorem failure_eq_timeout_iff (nothing : r.answer? = none) :
    r.failure url = .sourceTimeout ↔ Stalls r := by
  cases r with
  | unreachable => exact iff_of_false Failure.noConfusion id
  | unconnected => exact iff_of_true rfl trivial
  | sends messages =>
    refine iff_of_true rfl fun m member => ?_
    have announces := List.find?_eq_none.mp nothing m member
    rwa [Bool.not_eq_true', Bool.not_eq_false] at announces
  | breaks messages => exact iff_of_false Failure.noConfusion id

/-! ## One step -/

theorem step_of_hands (h : Hands r m) : step c r = .ends (.ok m) := by
  unfold step
  rw [h.1]
  dsimp only
  rw [h.2]

theorem step_of_leadsTo (h : LeadsTo r url) : step c r = .leads url := by
  obtain ⟨m, answered, next⟩ := h
  unfold step
  rw [answered]
  dsimp only
  rw [next]

theorem step_of_none (h : r.answer? = none) : step c r = .ends (.error (r.failure c.url)) := by
  unfold step
  rw [h]

/-- What a reply can make of a request, and when. -/
theorem step_cases (c : Call) (r : Reply) :
    (r.answer? = none ∧ step c r = .ends (.error (r.failure c.url))) ∨
    (∃ m, Hands r m ∧ step c r = .ends (.ok m)) ∨
    ∃ url, LeadsTo r url ∧ step c r = .leads url := by
  cases answered : r.answer? with
  | none => exact Or.inl ⟨rfl, step_of_none answered⟩
  | some m =>
    cases next : m.next? with
    | none =>
      have hands : Hands r m := ⟨answered, next⟩
      exact Or.inr (Or.inl ⟨m, hands, step_of_hands hands⟩)
    | some url =>
      have leads : LeadsTo r url := ⟨m, answered, next⟩
      exact Or.inr (Or.inr ⟨url, leads, step_of_leadsTo leads⟩)

theorem step_eq_leads_iff : step c r = .leads url ↔ LeadsTo r url := by
  refine ⟨fun h => ?_, step_of_leadsTo⟩
  rcases step_cases c r with ⟨-, eq⟩ | ⟨m, -, eq⟩ | ⟨other, leads, eq⟩
  · cases eq.symm.trans h
  · cases eq.symm.trans h
  · cases eq.symm.trans h
    exact leads

theorem step_eq_ok_iff : step c r = .ends (.ok m) ↔ Hands r m := by
  refine ⟨fun h => ?_, step_of_hands⟩
  rcases step_cases c r with ⟨-, eq⟩ | ⟨other, hands, eq⟩ | ⟨url, -, eq⟩
  · cases eq.symm.trans h
  · cases eq.symm.trans h
    exact hands
  · cases eq.symm.trans h

theorem step_eq_timeout_iff : step c r = .ends (.error .sourceTimeout) ↔ Stalls r := by
  constructor
  · intro h
    rcases step_cases c r with ⟨nothing, eq⟩ | ⟨m, -, eq⟩ | ⟨url, -, eq⟩
    · have late := Except.error.inj (Step.ends.inj (eq.symm.trans h))
      exact (failure_eq_timeout_iff nothing).mp late
    · cases eq.symm.trans h
    · cases eq.symm.trans h
  · intro stalls
    have nothing : r.answer? = none := stalls.answer?_eq_none
    rw [step_of_none nothing, (failure_eq_timeout_iff nothing).mpr stalls]

/-- A reply that ends an exchange without an answer is late or told in words. -/
theorem step_eq_error {f : Failure} (h : step c r = .ends (.error f)) :
    f = .sourceTimeout ∨ ∃ message, f = .unexpected message := by
  rcases step_cases c r with ⟨-, eq⟩ | ⟨m, -, eq⟩ | ⟨url, -, eq⟩
  · obtain rfl := Except.error.inj (Step.ends.inj (eq.symm.trans h))
    cases r with
    | unreachable => exact Or.inr ⟨_, rfl⟩
    | unconnected => exact Or.inl rfl
    | sends messages => exact Or.inl rfl
    | breaks messages => exact Or.inr ⟨_, rfl⟩
  · cases eq.symm.trans h
  · cases eq.symm.trans h

/-! ## One hop -/

/-- The request itself, if it gets through. -/
def here (c : Call) (d : Delivery) : List Call := if (d 0).isReceived then [c] else []

theorem here_of_isReceived (h : (d 0).isReceived = true) : here c d = [c] := if_pos h

theorem mem_here (h : c' ∈ here c d) : c' = c := by
  unfold here at h
  split at h
  · exact List.mem_singleton.mp h
  · cases h

theorem lt_length_here_iff : n < (here c d).length ↔ n = 0 ∧ (d 0).isReceived = true := by
  unfold here
  split
  · next received => simp [received]
  · next lost => simp [lost]

theorem not_sendsOn_of_ends {result : Except Failure Message} (h : step c r = .ends result) :
    ¬ SendsOn r := by
  rintro ⟨url, leads, -⟩
  rw [step_of_leadsTo leads] at h
  cases h

theorem not_sendsOn_of_barred (h : LeadsTo r url) (barred : isAskable url = false) :
    ¬ SendsOn r := by
  rintro ⟨other, leads, askable⟩
  rw [← h.unique leads, barred] at askable
  cases askable

theorem follow_ends {result : Except Failure Message} (h : step c (d 0) = .ends result) :
    follow hops c d = ⟨here c d, result⟩ := by
  unfold follow
  rw [h]
  rfl

theorem follow_spent (h : LeadsTo (d 0) url) : follow 0 c d =
    ⟨here c d, .error (.unexpected s!"error following redirect for url ({c.url.text})")⟩ := by
  unfold follow
  rw [step_of_leadsTo h]
  rfl

theorem follow_barred (h : LeadsTo (d 0) url) (barred : isAskable url = false) :
    follow (hops + 1) c d =
      ⟨here c d, .error (.unexpected s!"builder error for url ({url.text})")⟩ := by
  unfold follow
  rw [step_of_leadsTo h]
  dsimp only
  rw [barred]
  rfl

theorem follow_on (h : LeadsTo (d 0) url) (askable : isAskable url = true) :
    follow (hops + 1) c d =
      ⟨c :: (follow hops (c.redirected url) d.later).calls,
        (follow hops (c.redirected url) d.later).result⟩ := by
  generalize onward : follow hops (c.redirected url) d.later = rest
  unfold follow
  rw [step_of_leadsTo h, h.isReceived]
  dsimp only
  rw [askable, onward]
  rfl

/-- A hop ends the exchange, or is stuck with an answer that names another address, or leads to the
exchange with that address.  What holds of every exchange is proved by these three. -/
@[elab_as_elim]
theorem follow_induction {motive : Nat → Call → Delivery → Prop}
    (ends : ∀ hops c d result, step c (d 0) = .ends result →
      follow hops c d = ⟨here c d, result⟩ → motive hops c d)
    (stuck : ∀ hops c d url message, LeadsTo (d 0) url → hops = 0 ∨ ¬ SendsOn (d 0) →
      follow hops c d = ⟨here c d, .error (.unexpected message)⟩ → motive hops c d)
    (on : ∀ hops c d url, LeadsTo (d 0) url → isAskable url = true →
      follow (hops + 1) c d = ⟨c :: (follow hops (c.redirected url) d.later).calls,
        (follow hops (c.redirected url) d.later).result⟩ →
      motive hops (c.redirected url) d.later → motive (hops + 1) c d)
    (hops : Nat) (c : Call) (d : Delivery) : motive hops c d := by
  induction hops generalizing c d with
  | zero =>
    cases stepped : step c (d 0) with
    | ends result => exact ends 0 c d result stepped (follow_ends stepped)
    | leads url =>
      have leads : LeadsTo (d 0) url := step_eq_leads_iff.mp stepped
      exact stuck 0 c d url _ leads (Or.inl rfl) (follow_spent leads)
  | succ hops ih =>
    cases stepped : step c (d 0) with
    | ends result => exact ends (hops + 1) c d result stepped (follow_ends stepped)
    | leads url =>
      have leads : LeadsTo (d 0) url := step_eq_leads_iff.mp stepped
      cases askable : isAskable url with
      | false =>
        exact stuck (hops + 1) c d url _ leads (Or.inr (not_sendsOn_of_barred leads askable))
          (follow_barred leads askable)
      | true => exact on hops c d url leads askable (follow_on leads askable) (ih _ _)

/-! ## What is handed over -/

theorem led_zero (d : Delivery) : Led d 0 := fun i h => absurd h (Nat.not_lt_zero i)

theorem led_succ_iff : Led d (n + 1) ↔ SendsOn (d 0) ∧ Led d.later n := by
  constructor
  · intro h
    exact ⟨h 0 (Nat.succ_pos n), fun i lt => h (i + 1) (Nat.succ_lt_succ lt)⟩
  · rintro ⟨first, later⟩ i lt
    cases i with
    | zero => exact first
    | succ i => exact later i (Nat.lt_of_succ_lt_succ lt)

/-- Once the asker is not sent on, only the first reply is left. -/
theorem eq_zero_of_led (stays : hops = 0 ∨ ¬ SendsOn (d 0)) (bound : n ≤ hops) (led : Led d n) :
    n = 0 := by
  cases n with
  | zero => rfl
  | succ n =>
    rcases stays with rfl | stays
    · exact absurd bound (Nat.not_succ_le_zero n)
    · exact absurd (led_succ_iff.mp led).1 stays

section

variable {P : Reply → Prop}

theorem arrives_here_iff (stays : hops = 0 ∨ ¬ SendsOn (d 0)) : Arrives P hops d ↔ P (d 0) := by
  constructor
  · rintro ⟨n, bound, led, kind⟩
    rwa [eq_zero_of_led stays bound led] at kind
  · intro kind
    exact ⟨0, Nat.zero_le hops, led_zero d, kind⟩

theorem arrives_on_iff (on : SendsOn (d 0)) (notHere : ¬ P (d 0)) :
    Arrives P (hops + 1) d ↔ Arrives P hops d.later := by
  constructor
  · rintro ⟨n, bound, led, kind⟩
    cases n with
    | zero => exact absurd kind notHere
    | succ n => exact ⟨n, Nat.le_of_succ_le_succ bound, (led_succ_iff.mp led).2, kind⟩
  · rintro ⟨n, bound, led, kind⟩
    exact ⟨n + 1, Nat.succ_le_succ bound, led_succ_iff.mpr ⟨on, led⟩, kind⟩

/-- What is handed over comes of the first reply that does not send the asker on. -/
theorem result_follow_iff {result : Except Failure Message}
    (kind : ∀ c r, step c r = .ends result ↔ P r)
    (untold : ∀ message, result ≠ .error (.unexpected message)) :
    (follow hops c d).result = result ↔ Arrives P hops d := by
  have elsewhere : ∀ {r url}, LeadsTo r url → ¬ P r := by
    intro r url leads here
    rw [← kind c, step_of_leadsTo leads] at here
    cases here
  induction hops, c, d using follow_induction with
  | ends hops c d other stepped eq =>
    rw [eq, arrives_here_iff (Or.inr (not_sendsOn_of_ends stepped)), ← kind c, stepped]
    exact ⟨congrArg Step.ends, Step.ends.inj⟩
  | stuck hops c d url message leads stays eq =>
    rw [eq, arrives_here_iff stays]
    exact iff_of_false (fun h => untold message h.symm) (elsewhere leads)
  | on hops c d url leads askable eq ih =>
    rw [eq, arrives_on_iff ⟨url, leads, askable⟩ (elsewhere leads)]
    exact ih

end

/-- An exchange without an answer was too late or is told in words. -/
theorem result_follow_eq_error {f : Failure} (h : (follow hops c d).result = .error f) :
    f = .sourceTimeout ∨ ∃ message, f = .unexpected message := by
  induction hops, c, d using follow_induction with
  | ends hops c d result stepped eq =>
    rw [eq] at h
    exact step_eq_error (stepped.trans (congrArg Step.ends h))
  | stuck hops c d url message leads stays eq =>
    rw [eq] at h
    exact Or.inr ⟨message, (Except.error.inj h).symm⟩
  | on hops c d url leads askable eq ih =>
    rw [eq] at h
    exact ih h

/-! ## Which requests are made -/

/-- What holds of the requests of every exchange is proved where it is over with the first one, and
where that leads to others. -/
@[elab_as_elim]
theorem calls_induction {motive : Nat → Call → Delivery → Prop}
    (single : ∀ hops c d, hops = 0 ∨ ¬ SendsOn (d 0) → (follow hops c d).calls = here c d →
      motive hops c d)
    (on : ∀ hops c d url, LeadsTo (d 0) url → isAskable url = true →
      (follow (hops + 1) c d).calls = c :: (follow hops (c.redirected url) d.later).calls →
      motive hops (c.redirected url) d.later → motive (hops + 1) c d)
    (hops : Nat) (c : Call) (d : Delivery) : motive hops c d := by
  induction hops, c, d using follow_induction with
  | ends hops c d result stepped eq =>
    exact single hops c d (Or.inr (not_sendsOn_of_ends stepped)) (congrArg Exchange.calls eq)
  | stuck hops c d url message leads stays eq =>
    exact single hops c d stays (congrArg Exchange.calls eq)
  | on hops c d url leads askable eq ih =>
    exact on hops c d url leads askable (congrArg Exchange.calls eq) ih

theorem calls_follow_here (stays : hops = 0 ∨ ¬ SendsOn (d 0)) :
    (follow hops c d).calls = here c d := by
  induction hops, c, d using calls_induction with
  | single hops c d stays eq => exact eq
  | on hops c d url leads askable eq ih =>
    exact (stays.resolve_left (Nat.succ_ne_zero hops)).elim ⟨url, leads, askable⟩

/-- There is a request for each reply that is waited for, as long as requests get through. -/
theorem lt_length_follow_iff :
    n < (follow hops c d).calls.length ↔ n ≤ hops ∧ Led d n ∧ (d n).isReceived = true := by
  induction hops, c, d using calls_induction generalizing n with
  | single hops c d stays eq =>
    rw [eq, lt_length_here_iff]
    constructor
    · rintro ⟨rfl, received⟩
      exact ⟨Nat.zero_le hops, led_zero d, received⟩
    · rintro ⟨bound, led, received⟩
      obtain rfl := eq_zero_of_led stays bound led
      exact ⟨rfl, received⟩
  | on hops c d url leads askable eq ih =>
    have first : SendsOn (d 0) := ⟨url, leads, askable⟩
    rw [eq, List.length_cons]
    cases n with
    | zero => exact iff_of_true (Nat.succ_pos _) ⟨Nat.zero_le _, led_zero d, leads.isReceived⟩
    | succ n =>
      rw [Nat.add_lt_add_iff_right, ih, Nat.add_le_add_iff_right, led_succ_iff,
        and_iff_right first]
      rfl

/-- The first request is the one that was to be made. -/
theorem eq_of_calls_zero (h : (follow hops c d).calls[0]? = some c') : c' = c := by
  induction hops, c, d using calls_induction with
  | single hops c d stays eq =>
    rw [eq] at h
    exact mem_here (List.mem_of_getElem? h)
  | on hops c d url leads askable eq ih =>
    rw [eq] at h
    exact (Option.some.inj h).symm

/-- Every later request asks the address that the reply before it named. -/
theorem leadsTo_of_calls_succ (h : (follow hops c d).calls[n + 1]? = some c') :
    LeadsTo (d n) c'.url := by
  induction hops, c, d using calls_induction generalizing n with
  | single hops c d stays eq =>
    have bound : n + 1 < (here c d).length := by
      rw [← eq]
      exact (List.getElem?_eq_some_iff.mp h).1
    exact absurd (lt_length_here_iff.mp bound).1 (Nat.succ_ne_zero n)
  | on hops c d url leads askable eq ih =>
    rw [eq, List.getElem?_cons_succ] at h
    cases n with
    | zero =>
      rw [eq_of_calls_zero h]
      exact leads
    | succ n => exact ih h

/-! ### What is asked for -/

/-- A request that follows from another asks in the same way, and the credentials that it has are
those of the other and go to the same host. -/
structure Serves (c' c : Call) : Prop where
  line : c'.line = requestLine c'.url
  accept : c'.accept = c.accept
  authorization : c'.authorization = [] ∨
    c'.authorization = c.authorization ∧ isSameHost c'.url c.url = true

theorem isSameHost_iff {a b : Url} :
    isSameHost a b = true ↔ a.host = b.host ∧ askedNumber? a = askedNumber? b := by
  simp [isSameHost]

theorem serves_redirected (c : Call) (url : Url) : Serves (c.redirected url) c where
  line := rfl
  accept := rfl
  authorization := by
    unfold Call.redirected
    dsimp only
    split
    · next same => exact Or.inr ⟨rfl, same⟩
    · exact Or.inl rfl

theorem Serves.trans {a b c : Call} (h : Serves a b) (h' : Serves b c) : Serves a c where
  line := h.line
  accept := h.accept.trans h'.accept
  authorization := by
    rcases h.authorization with none | ⟨kept, same⟩
    · exact Or.inl none
    · rcases h'.authorization with none | ⟨kept', same'⟩
      · exact Or.inl (kept.trans none)
      · obtain ⟨host, number⟩ := isSameHost_iff.mp same
        obtain ⟨host', number'⟩ := isSameHost_iff.mp same'
        exact Or.inr ⟨kept.trans kept',
          isSameHost_iff.mpr ⟨host.trans host', number.trans number'⟩⟩

/-- Every request of an exchange asks as the first one does. -/
theorem serves_of_mem_calls (line : c.line = requestLine c.url)
    (h : c' ∈ (follow hops c d).calls) : Serves c' c := by
  have itself (c : Call) (line : c.line = requestLine c.url) : Serves c c :=
    ⟨line, rfl, Or.inr ⟨rfl, isSameHost_iff.mpr ⟨rfl, rfl⟩⟩⟩
  induction hops, c, d using calls_induction with
  | single hops c d stays eq =>
    rw [eq] at h
    obtain rfl := mem_here h
    exact itself _ line
  | on hops c d url leads askable eq ih =>
    rw [eq] at h
    rcases List.mem_cons.mp h with rfl | later
    · exact itself _ line
    · exact (ih rfl later).trans (serves_redirected c url)

/-! ### Replies that send the asker back -/

/-- Who is sent back to where it was asks as often as it lets itself be sent on, and once more. -/
theorem calls_follow_back {r : Reply} (leads : LeadsTo r url) (askable : isAskable url = true)
    (back : c.redirected url = c) (hops : Nat) :
    (follow hops c (.always r)).calls = List.replicate (hops + 1) c := by
  induction hops with
  | zero =>
    rw [calls_follow_here (Or.inl rfl)]
    exact here_of_isReceived leads.isReceived
  | succ hops ih =>
    rw [follow_on leads askable, back]
    exact congrArg (c :: ·) ih

end

/-! ## What comes of asking -/

/-- The address that is set is one that can be asked. -/
def AskedAt (settings : Settings) (url : Url) : Prop :=
  Url.parse? settings.sourceUrl = some url ∧ isAskable url = true

/-- An answer is handed over in the end. -/
def Handed (settings : Settings) (d : Delivery) (m : Message) : Prop :=
  (∃ url, AskedAt settings url) ∧ Arrives (Hands · m) maxRedirects d

/-- The answer is a success with a whole body, and the body is an array of items. -/
def Brings (settings : Settings) (d : Delivery) (items : List Json) : Prop :=
  ∃ m bytes text, Handed settings d m ∧ isSuccess m.status = true ∧ isBodiless m.status = false ∧
    m.body = .sent bytes true ∧ Text.decode? bytes = some text ∧
    Json.read? text = some (.array items)

/-- No answer comes in time, or it is a success whose body does not come in time. -/
def Late (settings : Settings) (d : Delivery) : Prop :=
  (∃ url, AskedAt settings url) ∧ Arrives Stalls maxRedirects d ∨
    ∃ m, Handed settings d m ∧ isSuccess m.status = true ∧ isBodiless m.status = false ∧
      m.body = .awaited

/-- The answer has a status that is no success, and any body or none. -/
def Refuses (settings : Settings) (d : Delivery) (status : Nat) : Prop :=
  ∃ m, Handed settings d m ∧ isSuccess m.status = false ∧ m.status = status

section

variable {settings : Settings} {d : Delivery} {m : Message} {url : Url} {vs : List Json}
  {bytes : List UInt8} {complete : Bool} {status : Nat} {f : Failure}

theorem exchange_asked (asked : AskedAt settings url) (d : Delivery) :
    exchange settings d = follow maxRedirects (call settings url) d := by
  unfold exchange
  rw [asked.1]
  exact if_pos asked.2

theorem exchange_not_asked (h : ¬ ∃ url, AskedAt settings url) :
    ∃ message, exchange settings d = ⟨[], .error (.unexpected message)⟩ := by
  unfold exchange
  split
  · exact ⟨_, rfl⟩
  · next url parsed => exact ⟨_, if_neg fun askable => h ⟨url, parsed, askable⟩⟩

/-- What is handed over where an address is asked comes of the replies alone. -/
theorem result_exchange_iff {P : Reply → Prop} {result : Except Failure Message}
    (kind : ∀ c r, step c r = .ends result ↔ P r)
    (untold : ∀ message, result ≠ .error (.unexpected message)) :
    (exchange settings d).result = result ↔
      (∃ url, AskedAt settings url) ∧ Arrives P maxRedirects d := by
  by_cases asked : ∃ url, AskedAt settings url
  · rw [and_iff_right asked]
    obtain ⟨url, asked⟩ := asked
    rw [exchange_asked asked]
    exact result_follow_iff kind untold
  · obtain ⟨message, eq⟩ := exchange_not_asked (d := d) asked
    rw [eq]
    exact iff_of_false (fun h => untold message h.symm) fun h => asked h.1

theorem result_exchange_eq_ok_iff : (exchange settings d).result = .ok m ↔ Handed settings d m :=
  result_exchange_iff (fun _ _ => step_eq_ok_iff) fun _ h => by cases h

theorem result_exchange_eq_timeout_iff : (exchange settings d).result = .error .sourceTimeout ↔
    (∃ url, AskedAt settings url) ∧ Arrives Stalls maxRedirects d :=
  result_exchange_iff (fun _ _ => step_eq_timeout_iff) fun _ h => by cases h

theorem result_exchange_eq_error (h : (exchange settings d).result = .error f) :
    f = .sourceTimeout ∨ ∃ message, f = .unexpected message := by
  by_cases asked : ∃ url, AskedAt settings url
  · obtain ⟨url, asked⟩ := asked
    rw [exchange_asked asked] at h
    exact result_follow_eq_error h
  · obtain ⟨message, eq⟩ := exchange_not_asked (d := d) asked
    rw [eq] at h
    exact Or.inr ⟨message, (Except.error.inj h).symm⟩

/-! ### Items -/

/-- An empty body has no items. -/
theorem items_nil : items [] true = .error (.unexpected "error decoding response body") := by
  have nothing : (Text.decode? []).bind Json.read? = none := by decide +kernel
  unfold items
  simp only [if_true, nothing]

theorem items_eq_ok_iff : items bytes complete = .ok vs ↔
    complete = true ∧ ∃ text, Text.decode? bytes = some text ∧
      Json.read? text = some (.array vs) := by
  unfold items
  cases complete with
  | false => simp
  | true =>
    cases Text.decode? bytes with
    | none => simp
    | some text =>
      cases read : Json.read? text with
      | none => simp [read]
      | some v => cases v <;> simp [read]

/-- A body without items is a failure that is told in words. -/
theorem items_eq_error (h : items bytes complete = .error f) :
    ∃ message, f = .unexpected message := by
  unfold items at h
  extract_lets value at h
  clear_value value
  split at h
  · exact ⟨_, (Except.error.inj h).symm⟩
  · exact nomatch h
  · exact ⟨_, (Except.error.inj h).symm⟩

theorem items_of_refusal (h : isSuccess m.status = false) :
    m.items = .error (.sourceStatus m.status) := by
  unfold Message.items
  rw [h]
  rfl

theorem items_of_bodiless (success : isSuccess m.status = true)
    (bodiless : isBodiless m.status = true) :
    m.items = .error (.unexpected "error decoding response body") := by
  unfold Message.items
  rw [success, bodiless]
  exact items_nil

theorem items_of_awaited (success : isSuccess m.status = true)
    (bodied : isBodiless m.status = false) (body : m.body = .awaited) :
    m.items = .error .sourceTimeout := by
  unfold Message.items
  rw [success, bodied, body]
  rfl

theorem items_of_sent (success : isSuccess m.status = true)
    (bodied : isBodiless m.status = false) (body : m.body = .sent bytes complete) :
    m.items = items bytes complete := by
  unfold Message.items
  rw [success, bodied, body]
  rfl

/-! ### One kind each -/

theorem fetch_of_handed (h : Handed settings d m) : fetch settings d = m.items := by
  unfold fetch
  rw [result_exchange_eq_ok_iff.mpr h]
  rfl

theorem fetch_of_error (h : (exchange settings d).result = .error f) :
    fetch settings d = .error f := by
  unfold fetch
  rw [h]
  rfl

theorem fetch_of_brings (h : Brings settings d vs) : fetch settings d = .ok vs := by
  obtain ⟨m, bytes, text, handed, success, bodied, body, decoded, read⟩ := h
  rw [fetch_of_handed handed, items_of_sent success bodied body]
  exact items_eq_ok_iff.mpr ⟨rfl, text, decoded, read⟩

theorem fetch_of_late (h : Late settings d) : fetch settings d = .error .sourceTimeout := by
  rcases h with stalled | ⟨m, handed, success, bodied, body⟩
  · exact fetch_of_error (result_exchange_eq_timeout_iff.mpr stalled)
  · rw [fetch_of_handed handed, items_of_awaited success bodied body]

theorem fetch_of_refuses (h : Refuses settings d status) :
    fetch settings d = .error (.sourceStatus status) := by
  obtain ⟨m, handed, refusal, rfl⟩ := h
  rw [fetch_of_handed handed, items_of_refusal refusal]

/-- What is of neither kind is a failure that is told in words. -/
theorem fetch_otherwise (notBrought : ¬ ∃ vs, Brings settings d vs) (notLate : ¬ Late settings d)
    (notRefused : ¬ ∃ status, Refuses settings d status) :
    ∃ message, fetch settings d = .error (.unexpected message) := by
  cases result : (exchange settings d).result with
  | error f =>
    rcases result_exchange_eq_error result with rfl | ⟨message, rfl⟩
    · exact absurd (Or.inl (result_exchange_eq_timeout_iff.mp result)) notLate
    · exact ⟨message, fetch_of_error result⟩
  | ok m =>
    have handed : Handed settings d m := result_exchange_eq_ok_iff.mp result
    rw [fetch_of_handed handed]
    -- a success is left, and one that comes without items
    cases success : isSuccess m.status with
    | false => exact absurd ⟨m.status, m, handed, success, rfl⟩ notRefused
    | true =>
      cases bodied : isBodiless m.status with
      | true => exact ⟨_, items_of_bodiless success bodied⟩
      | false =>
        cases body : m.body with
        | awaited => exact absurd (Or.inr ⟨m, handed, success, bodied, body⟩) notLate
        | sent bytes complete =>
          rw [items_of_sent success bodied body]
          cases given : items bytes complete with
          | ok vs =>
            obtain ⟨rfl, text, decoded, read⟩ := items_eq_ok_iff.mp given
            exact absurd ⟨vs, m, bytes, text, handed, success, bodied, body, decoded, read⟩
              notBrought
          | error f =>
            obtain ⟨message, rfl⟩ := items_eq_error given
            exact ⟨message, rfl⟩

/-- Without items there is a failure. -/
theorem exists_failure (notBrought : ¬ ∃ vs, Brings settings d vs) :
    ∃ f, fetch settings d = .error f := by
  by_cases late : Late settings d
  · exact ⟨_, fetch_of_late late⟩
  · by_cases refused : ∃ status, Refuses settings d status
    · obtain ⟨status, refuses⟩ := refused
      exact ⟨_, fetch_of_refuses refuses⟩
    · obtain ⟨message, failed⟩ := fetch_otherwise notBrought late refused
      exact ⟨_, failed⟩

end

/-- An address of the machine itself. -/
def loopback (name : String) : Url where
  scheme := "http"
  host := some (.ipv6 [0, 0, 0, 0, 0, 0, 0, 1])
  number := some 8080
  path := .segments [name]

end ODataGateway.Source
