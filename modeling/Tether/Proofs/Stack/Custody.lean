/-
# Tether.Proofs.Stack.Custody -- the transports of a session

The session knows its transports by number, in the order in which it opened them, and the network
holds them in that order, those that were given up as well.  The session uses one at most.  All
others have ended: whatever the session does to take a transport out of use, it resets it
(`Custody.gone`).

About the one in use the session knows what it was told.  It presents its credentials when the
transport takes frames, so by then the transport has opened; and a transport that ends by itself
says so, so as long as there is no such news, and the session has not yet heard of it, the
transport is as the session takes it to be (`Serving`).

* `Custody.handle` -- to take in an input keeps the transports in custody: it leaves them as they
  are, ends the one in use, or opens one more.
* `custody_arisen` -- and so they are whatever happens.
-/
import Tether.Proofs.Network.Reports
import Tether.Proofs.Session.Tenure
import Tether.Proofs.Stack.Happenings

set_option autoImplicit false

namespace Tether

/-- The credentials were presented on the transport in use. -/
def Phase.Engaged (phase : Phase) : Prop := phase = .handshaking ∨ phase = .ready

namespace Session

/-- A session engages only while its transport takes frames, and stays engaged with that one. -/
theorem Deed.engaged {accepting : Bool} {v w : Stance} {heard : Option Hearing}
    {given : List Effect} (deed : Deed accepting v heard w given) (engaged : w.phase.Engaged) :
    w.active = v.active ∧ (v.phase.Engaged ∨ accepting = true) := by
  have up {phase : Phase} (down : phase.Down) : ¬phase.Engaged := by
    rintro (greeting | ready)
    · exact down.other.2.1 greeting
    · exact down.other.2.2 ready
  have connecting {phase : Phase} (same : phase = .connecting) : ¬phase.Engaged := by
    subst same
    rintro (greeting | ready) <;> contradiction
  have fresh {session : SessionId} {token : AccessToken} {w : Stance} {given : List Effect}
      (fresh : Fresh (v.install session token) w given) : ¬w.phase.Engaged := by
    cases fresh <;> exact connecting rfl
  have offered {number : Nat} {frame : String} {u w : Stance} {accepting : Bool}
      {given : List Effect} (offer : Offer number frame u accepting w given)
      (engaged : w.phase.Engaged) : w = u ∧ accepting = true := by
    cases offer with
    | sent => exact ⟨rfl, rfl⟩
    | refused phase down => exact absurd engaged (up down)
  cases deed with
  | still | reopened | unready | request => exact ⟨rfl, .inl engaged⟩
  | drop phase down => exact absurd engaged (up down)
  | lost phase down => exact absurd engaged (up down)
  | install _ _ anew => exact absurd engaged (fresh anew)
  | reinstall _ _ _ anew => exact absurd engaged (fresh anew)
  | settled phase => exact absurd engaged (connecting phase)
  | greet phase held tokenHeld used offer =>
      obtain ⟨rfl, takes⟩ := offered offer engaged
      exact ⟨rfl, .inr takes⟩
  | welcome phase => exact ⟨rfl, .inl (.inl phase)⟩
  | frame phase => exact ⟨rfl, .inl (.inr phase)⟩
  | pong phase held used offer =>
      obtain ⟨rfl, -⟩ := offered offer engaged
      exact ⟨rfl, .inl (.inr phase)⟩
  | send phase held current used offer =>
      obtain ⟨rfl, -⟩ := offered offer engaged
      exact ⟨rfl, .inl (.inr phase)⟩
  | reconnect => exact absurd engaged (up (.inr (.inl rfl)))

/-- After a failure no transport is in use. -/
theorem Upshot.retires {setup : Setup} {v w : Footing} {given : List Effect}
    (upshot : Upshot setup v (some .failure) w given) : w.active = none := by
  cases upshot <;> rfl

end Session

/-! ## What effects do to transports -/

namespace Network

def movesOf (wiring : Wiring) (effects : List Effect) : List Move :=
  effects.flatMap (·.moves wiring)

section Effects

variable {wiring : Wiring} {effects : List Effect} {n : Network} {line : Nat}

theorem movesOf_orderly (wiring : Wiring) (effects : List Effect) :
    Orderly wiring.factory (movesOf wiring effects) := by
  intro move member
  obtain ⟨effect, -, carries⟩ := List.mem_flatMap.1 member
  cases effect <;> simp [Effect.moves] at carries
  case «open» => rcases carries with rfl | rfl <;> trivial
  all_goals subst carries; trivial

/-- No session drops a transport. -/
theorem movesOf_keep {move : Move} (member : move ∈ movesOf wiring effects) (other : Nat) :
    move ≠ .drop other := by
  obtain ⟨effect, -, carries⟩ := List.mem_flatMap.1 member
  rintro rfl
  cases effect <;> simp [Effect.moves] at carries

theorem movesOf_spare (spared : .retire line ∉ effects) {move : Move}
    (member : move ∈ movesOf wiring effects) : move.Spares line := by
  obtain ⟨effect, asked, carries⟩ := List.mem_flatMap.1 member
  cases effect <;> simp [Effect.moves] at carries
  case «open» => rcases carries with rfl | rfl <;> trivial
  case retire number =>
    subst carries
    rintro rfl
    exact spared asked
  all_goals subst carries; trivial

theorem length_movesOf (opened : ∀ link, .open link ∉ effects) :
    (n.afterFrom (movesOf wiring effects)).lines.length = n.lines.length := by
  refine length_run fun move member factory kind => ?_
  obtain ⟨effect, asked, carries⟩ := List.mem_flatMap.1 member
  rintro rfl
  cases effect <;> simp [Effect.moves] at carries
  exact opened _ asked

/-- A transport that is given up has ended. -/
theorem gone_movesOf (gone : n.Gone line ∨ .retire line ∈ effects) (built : line < n.lines.length) :
    (n.afterFrom (movesOf wiring effects)).Gone line := by
  rcases gone with gone | retired
  · exact gone.run built _
  · have resets : .reset line ∈ movesOf wiring effects :=
      List.mem_flatMap.2 ⟨_, retired, List.mem_singleton_self _⟩
    exact gone_of_mem resets (fun m => gone_reset m line) built

/-- What a transport owes is that it says so when it ends, or that this was said before. -/
theorem owed_run {P : Prop} {factory : Factory} {moves more : List Move}
    (orderly : Orderly factory (moves ++ more)) (spared : ∀ move ∈ more, move.Spares line)
    (owed : (after moves).Fallen line → .failed ∈ (after moves).news line ∨ P)
    (fallen : (after (moves ++ more)).Fallen line) :
    .failed ∈ (after (moves ++ more)).news line ∨ P := by
  rcases fallen_run orderly spared fallen with said | ⟨before, stays⟩
  · exact .inl said
  · exact (owed before).imp_left (stays _)

theorem present_add {factory : Factory} {kind : TransportKind}
    (polling : (factory.create kind).kind = .polling) :
    ((n.make (.add factory kind)).poller? n.lines.length).isSome = true := by
  cases created : factory.create kind with
  | persistent ws => simp [created, Carrier.kind] at polling
  | polling t => simp [make, addLine, poller?, carrier?, created, Carrier.poller?]

/-- Effects that open one transport add one line, at the end, and leave the transport there. -/
theorem opened_movesOf (wiring : Wiring) {kind : TransportKind}
    (alone : Session.marks effects = [.open ⟨n.lines.length, kind⟩]) :
    (n.afterFrom (movesOf wiring effects)).lines.length = n.lines.length + 1 ∧
      ((wiring.factory.create kind).kind = .polling →
        ((n.afterFrom (movesOf wiring effects)).poller? n.lines.length).isSome = true) := by
  have member : .open ⟨n.lines.length, kind⟩ ∈ effects := by
    rw [← Session.mem_marks rfl, alone]
    exact List.mem_singleton_self _
  obtain ⟨first, rest, rfl⟩ := List.append_of_mem member
  obtain ⟨early, -, late⟩ := Session.marks_lone rfl alone
  have plain {others : List Effect} (bare : Session.marks others = []) (link : Link) :
      .open link ∉ others := by
    rw [← Session.mem_marks rfl, bare]
    exact List.not_mem_nil
  have carried : n.afterFrom (movesOf wiring (first ++ .open ⟨n.lines.length, kind⟩ :: rest)) =
      (((n.afterFrom (movesOf wiring first)).make (.add wiring.factory kind)).make
        (.start n.lines.length)).afterFrom (movesOf wiring rest) := by
    rw [movesOf, List.flatMap_append, afterFrom_append]
    rfl
  -- All before the opening leaves the lines as they are, so the new one is the next.
  have length : (n.afterFrom (movesOf wiring first)).lines.length = n.lines.length :=
    length_movesOf (plain early)
  rw [carried]
  generalize n.afterFrom (movesOf wiring first) = m at length
  refine ⟨?_, fun polling => ?_⟩
  · rw [length_movesOf (plain late), length_make _ (.start n.lines.length) (fun _ _ => by simp)]
    simp [make, addLine, length]
  · have there := present_add (n := m) polling
    rw [length] at there
    exact present_run (present_make there fun _ same => by cases same) fun _ => movesOf_keep

/-- A polling transport that takes frames is open. -/
theorem live_of_accepting (accepts : n.accepting line = true) {t : LongPoll}
    (here : n.poller? line = some t) : t.phase = .live := by
  rw [accepting, poller?_eq_some.1 here] at accepts
  cases phase : t.phase <;> simp [Carrier.refusal, LongPoll.send, phase] at accepts ⊢

end Effects

end Network

namespace Stack

open Network (after movesOf Launched Orderly)

/-! ## Custody -/

/-- What the session knows of the transport in use. -/
structure Serving (s : Stack) (link : Link) : Prop where
  present : s.session.running = true → (s.wiring.factory.create link.kind).kind = .polling →
    (s.network.poller? link.number).isSome = true
  launched : s.session.phase.Engaged → ∀ t, s.network.poller? link.number = some t → Launched t
  /-- That it ended was said, and the session has not heard of it yet. -/
  owed : s.session.running = true → s.network.Fallen link.number →
    .failed ∈ s.network.news link.number ∨ .transport link.number .failed ∈ s.inbox

/-- How the transports of the network are those of the session. -/
structure Custody (s : Stack) : Prop where
  orderly : ∃ moves, Orderly s.wiring.factory moves ∧ s.network = after moves
  lines : s.network.lines.length = s.session.nextLink
  gone : ∀ line, s.session.active.map (·.number) ≠ some line → s.network.Gone line
  serving : ∀ link, s.session.active = some link → s.Serving link

section Custody

variable {s : Stack}

/-- A session that presented its credentials uses a transport. -/
theorem Lived.engaged (lived : s.Lived) (engaged : s.session.phase.Engaged) :
    s.session.active.isSome = true := by
  obtain ⟨past, t, life, same⟩ := lived
  have arranged := (Session.life_coherent life).arranged
  have used : t.active.isSome = true := by
    have phase : t.phase.Engaged := by rcases same with same | same <;> rwa [same] at engaged
    rcases phase with greeting | ready
    · exact ((Session.arranged_handshaking greeting).1 arranged).active
    · exact ((Session.arranged_ready ready).1 arranged).active
  rcases same with same | same <;> rwa [same]

theorem Custody.call (custody : s.Custody) (input : Input) (count : Nat) :
    Custody { s with calls := count, inbox := s.inbox ++ [input] } where
  orderly := custody.orderly
  lines := custody.lines
  gone := custody.gone
  serving link used :=
    { present := (custody.serving link used).present
      launched := (custody.serving link used).launched
      owed := fun running fallen =>
        ((custody.serving link used).owed running fallen).imp_right (List.mem_append_left _) }

/-- The network may move as it does by itself: it adds no transport and drops none. -/
theorem Custody.stir (custody : s.Custody) (lived : s.Lived) {move : Network.Move}
    (stirs : move.Stirs) : Custody { s with network := s.network.make move } := by
  obtain ⟨⟨moves, orderly, same⟩, lines, gone, serving⟩ := custody
  have others (factory : Factory) (kind : TransportKind) : move ≠ .add factory kind := by
    rintro rfl
    exact stirs
  have keeps (other : Nat) : move ≠ .drop other := by
    rintro rfl
    exact stirs
  have next : Orderly s.wiring.factory (moves ++ [move]) :=
    Network.orderly_concat.2 ⟨orderly, by cases move <;> first | exact stirs.elim | trivial⟩
  have spared (line : Nat) : ∀ other ∈ [move], other.Spares line := by
    intro other member
    rw [List.mem_singleton.1 member]
    cases move <;> first | exact stirs.elim | trivial
  have built {link : Link} (used : s.session.active = some link) :
      link.number < s.network.lines.length := lines ▸ lived.known used
  refine ⟨⟨moves ++ [move], next, ?_⟩, ?_, ?_, ?_⟩
  · rw [Network.after_concat, ← same]
  · exact (Network.length_make _ move others).trans lines
  · intro line unused
    by_cases there : line < s.network.lines.length
    · exact (gone line unused).run there [move]
    · refine Network.gone_of_unbuilt ?_
      have same := Network.length_make s.network move others
      exact Nat.le_trans (Nat.le_of_eq same) (Nat.le_of_not_lt there)
  · intro link used
    refine ⟨fun running polling => ?_, fun engaged => ?_, fun running fallen => ?_⟩
    · exact Network.present_make ((serving link used).present running polling) keeps
    · exact Network.launched_run ((serving link used).launched engaged) (built used) [move]
    · have owed := (serving link used).owed running
      simp only [same, ← Network.after_concat] at owed fallen ⊢
      exact Network.owed_run next (spared link.number) owed fallen

/-- News become inputs. -/
theorem mem_collect {line : Nat} {event : TransportEvent} (told : event ∈ s.network.news line) :
    .transport line event ∈ s.collect.inbox := by
  obtain ⟨arrival, member, tells⟩ := List.mem_filterMap.1 told
  refine List.mem_append_right _ (List.mem_map.2 ⟨arrival, member, ?_⟩)
  cases arrival with
  | resolved | expired => cases tells
  | event other said =>
      simp only [Network.event?] at tells
      split at tells <;> cases tells
      rename_i same
      rw [inputOf, same]

theorem Custody.collect (custody : s.Custody) : s.collect.Custody := by
  obtain ⟨⟨moves, orderly, same⟩, lines, gone, serving⟩ := custody
  have next : Orderly s.wiring.factory (moves ++ [Network.Move.fetch]) :=
    Network.orderly_concat.2 ⟨orderly, trivial⟩
  refine ⟨⟨_, next, ?_⟩, lines, gone, ?_⟩
  · rw [Network.after_concat, ← same]
    rfl
  · intro link used
    refine ⟨(serving link used).present, (serving link used).launched, fun running fallen => ?_⟩
    rcases (serving link used).owed running fallen with told | waits
    · exact .inr (mem_collect told)
    · exact .inr (List.mem_append_left _ waits)

theorem Custody.aborted (custody : s.Custody) : s.aborted.Custody := by
  obtain ⟨⟨moves, orderly, same⟩, lines, gone, serving⟩ := custody
  have drops : s.aborted.network =
      s.network.afterFrom ((List.range s.network.lines.length).map .drop) := by
    simp only [Stack.aborted, dropLines, Network.afterFrom, List.foldl_map]
    rfl
  generalize all : (List.range s.network.lines.length).map Network.Move.drop = moves' at drops
  have dropped {move : Network.Move} (member : move ∈ moves') :
      ∃ line, move = .drop line := by
    rw [← all] at member
    obtain ⟨line, -, rfl⟩ := List.mem_map.1 member
    exact ⟨line, rfl⟩
  have length : s.aborted.network.lines.length = s.network.lines.length := by
    rw [drops]
    refine Network.length_run fun move member factory kind => ?_
    obtain ⟨line, rfl⟩ := dropped member
    intro same
    cases same
  have ended (line : Nat) : s.aborted.network.Gone line := by
    by_cases there : line < s.network.lines.length
    · rw [drops]
      have member : .drop line ∈ moves' :=
        all ▸ List.mem_map_of_mem (List.mem_range.2 there)
      exact Network.gone_of_mem member (fun m => Network.gone_drop m line) there
    · exact Network.gone_of_unbuilt (Nat.le_trans (Nat.le_of_eq length) (Nat.le_of_not_lt there))
  have rest : Orderly s.wiring.factory moves' := by
    intro move member
    obtain ⟨line, rfl⟩ := dropped member
    trivial
  refine ⟨⟨moves ++ moves', orderly.append rest, ?_⟩, length.trans lines, fun line _ => ended line,
    ?_⟩
  · rw [drops, same, Network.after_append]
  · intro link used
    have stopped : s.aborted.session.running ≠ true := Bool.false_ne_true
    exact
      { present := fun running => absurd running stopped
        launched := fun _ t here => .inr (ended link.number t here)
        owed := fun running => absurd running stopped }

end Custody

/-! ## To take in an input -/

section Handle

variable {s t : Stack} {effects : List Effect}

/-- The effects are carried out in a network whose transports are in custody. -/
theorem Custody.orderly_after (custody : s.Custody) (wiring : t.wiring = s.wiring)
    (network : t.network = s.network.afterFrom (movesOf s.wiring effects)) :
    ∃ moves, Orderly t.wiring.factory moves ∧ t.network = after moves := by
  obtain ⟨moves, orderly, same⟩ := custody.orderly
  refine ⟨moves ++ movesOf s.wiring effects, ?_, by rw [network, same, Network.after_append]⟩
  rw [wiring]
  exact orderly.append (Network.movesOf_orderly _ _)

/-- While no transport is opened, those that were not in use, and those that are given up, have
ended. -/
theorem Custody.gone_after (custody : s.Custody)
    (network : t.network = s.network.afterFrom (movesOf s.wiring effects))
    (opened : ∀ link, .open link ∉ effects) {line : Nat}
    (unused : s.session.active.map (·.number) ≠ some line ∨ .retire line ∈ effects) :
    t.network.Gone line := by
  rw [network]
  by_cases built : line < s.network.lines.length
  · exact Network.gone_movesOf (unused.imp_left (custody.gone line)) built
  · refine Network.gone_of_unbuilt ?_
    rw [Network.length_movesOf opened]
    exact Nat.le_of_not_lt built

/-- The transport in use was given up. -/
theorem Custody.dropped (custody : s.Custody) (wiring : t.wiring = s.wiring)
    (network : t.network = s.network.afterFrom (movesOf s.wiring effects))
    (unused : t.session.active = none) (count : t.session.nextLink = s.session.nextLink)
    (opened : ∀ link, .open link ∉ effects)
    (retired : ∀ link, s.session.active = some link → .retire link.number ∈ effects) :
    t.Custody where
  orderly := custody.orderly_after wiring network
  lines := by rw [network, Network.length_movesOf opened, custody.lines, count]
  gone line _ := by
    refine custody.gone_after network opened ?_
    by_cases used : s.session.active.map (·.number) = some line
    · obtain ⟨link, mine, rfl⟩ := Option.map_eq_some_iff.1 used
      exact .inr (retired link mine)
    · exact .inl used
  serving link used := by
    rw [unused] at used
    cases used

/-- The transports are left as they are. -/
theorem Custody.kept (custody : s.Custody) (lived : s.Lived) (wiring : t.wiring = s.wiring)
    (network : t.network = s.network.afterFrom (movesOf s.wiring effects))
    (active : t.session.active = s.session.active)
    (count : t.session.nextLink = s.session.nextLink) (opened : ∀ link, .open link ∉ effects)
    (retired : ∀ number, .retire number ∉ effects)
    (engaged : t.session.phase.Engaged → s.session.phase.Engaged ∨ s.accepting = true)
    (runs : t.session.running = true → s.session.running = true)
    (waits : t.session.running = true → ∀ link, t.session.active = some link →
      .transport link.number .failed ∈ s.inbox → .transport link.number .failed ∈ t.inbox) :
    t.Custody where
  orderly := custody.orderly_after wiring network
  lines := by rw [network, Network.length_movesOf opened, custody.lines, count]
  gone line unused := custody.gone_after network opened (.inl (active ▸ unused))
  serving link used := by
    have before : s.session.active = some link := active ▸ used
    have serving := custody.serving link before
    have built : link.number < s.network.lines.length := custody.lines ▸ lived.known before
    refine ⟨fun running polling => ?_, fun now => ?_, fun running fallen => ?_⟩
    · rw [network]
      exact Network.present_run (serving.present (runs running) (wiring ▸ polling))
        fun _ member => Network.movesOf_keep member
    · rw [network]
      refine Network.launched_run ?_ built _
      rcases engaged now with earlier | accepts
      · exact serving.launched earlier
      · intro t here
        rw [accepting, before] at accepts
        exact .inl (Network.live_of_accepting accepts here)
    · obtain ⟨moves, orderly, same⟩ := custody.orderly
      have owed := serving.owed (runs running)
      have next := orderly.append (Network.movesOf_orderly s.wiring effects)
      rw [network] at fallen ⊢
      rw [same, ← Network.after_append] at fallen ⊢
      rw [same] at owed
      exact (Network.owed_run next (fun _ => Network.movesOf_spare (retired _)) owed fallen).imp_right
        (waits running link used)

/-- A transport was opened while none was in use. -/
theorem Custody.opened (custody : s.Custody) (wiring : t.wiring = s.wiring)
    (network : t.network = s.network.afterFrom (movesOf s.wiring effects)) {kind : TransportKind}
    (unused : s.session.active = none)
    (active : t.session.active = some ⟨s.session.nextLink, kind⟩)
    (count : t.session.nextLink = s.session.nextLink + 1)
    (alone : Session.marks effects = [.open ⟨s.session.nextLink, kind⟩])
    (unengaged : ¬t.session.phase.Engaged) : t.Custody := by
  have orderly := custody.orderly_after wiring network
  obtain ⟨⟨moves, before, same⟩, lines, gone, -⟩ := custody
  have spared (number : Nat) : .retire number ∉ effects := by
    rw [← Session.mem_marks rfl, alone]
    simp
  rw [← lines] at alone
  obtain ⟨longer, there⟩ := Network.opened_movesOf s.wiring alone
  rw [← network] at longer there
  rw [lines] at longer there
  refine ⟨orderly, longer.trans count.symm, fun line other => ?_, fun link used => ?_⟩
  · by_cases built : line < s.network.lines.length
    · rw [network]
      refine (gone line ?_).run built _
      simp [unused]
    · have latest : s.session.nextLink ≠ line := fun same => other (active ▸ congrArg some same)
      refine Network.gone_of_unbuilt ?_
      omega
  · obtain rfl : ⟨s.session.nextLink, kind⟩ = link := Option.some.inj (active.symm.trans used)
    refine ⟨fun _ polling => ?_, fun engaged => absurd engaged unengaged, fun _ fallen => ?_⟩
    · exact there (wiring ▸ polling)
    · -- Before it was built, the transport had not ended.
      have fresh : ¬s.network.Fallen s.session.nextLink := by
        rintro ⟨t, here, -⟩
        have inside := Network.lt_of_carrier? (Network.poller?_eq_some.1 here)
        exact absurd inside (Nat.not_lt_of_le (Nat.le_of_eq lines))
      rw [network, same, ← Network.after_append] at fallen ⊢
      rw [same] at fresh
      exact Network.owed_run (before.append (Network.movesOf_orderly _ _))
        (fun _ => Network.movesOf_spare (spared _)) (fun fallen => absurd fallen fresh) fallen

/-- When the session hears that the transport in use failed, it puts it out of use. -/
theorem failed_unused {past : List Session.Beat} (life : Session.Life s.setup.config past s.session)
    (running : s.session.running = true) {link : Link} (used : s.session.active = some link) :
    (s.session.beat s.setup.config (s.turn (.transport link.number .failed))).after.active =
      none := by
  have upshot := Session.beat_upshot life (s.turn (.transport link.number .failed))
  have befell : (s.session.beat s.setup.config
      (s.turn (.transport link.number .failed))).befell = some .failure :=
    (Session.befell_running running).trans (if_pos (congrArg (Option.map Link.number) used))
  rw [befell] at upshot
  exact upshot.retires

/-- **To take in an input keeps the transports in custody.** -/
theorem Custody.handle (custody : s.Custody) (lived : s.Lived) {place : Nat} {input : Input}
    (here : s.inbox[place]? = some input) :
    ({ s with inbox := s.inbox.eraseIdx place }.handle input).Custody := by
  have handled := handles { s with inbox := s.inbox.eraseIdx place } input
  generalize Stack.handle { s with inbox := s.inbox.eraseIdx place } input = t at handled ⊢
  obtain ⟨-, wiring, session, inbox, network⟩ := handled
  have same : beat { s with inbox := s.inbox.eraseIdx place } input =
      s.session.beat s.setup.config (s.turn input) := rfl
  simp only [same] at wiring session inbox network
  cases running : s.session.running with
  | false =>
      obtain ⟨after, effects⟩ := Session.beat_stopped running (s.turn input)
      rw [after] at session
      rw [effects] at network
      have stays : t.session.running = true → s.session.running = true := session ▸ id
      have unmoved : t.network = s.network.afterFrom (movesOf s.wiring []) := network
      exact custody.kept lived wiring unmoved (congrArg Session.active session)
        (congrArg Session.nextLink session) nofun nofun (fun engaged => .inl (session ▸ engaged))
        stays fun runs => by cases running.symm.trans (stays runs)
  | true =>
      obtain ⟨past, life⟩ := lived.life running
      have upshot := Session.beat_upshot life (s.turn input)
      have deed := Session.beat_deed life (s.turn input)
      cases upshot.passage with
      | kept active count opened retired =>
          refine custody.kept lived wiring network ?_ ?_ ?_ ?_ ?_ ?_ ?_
          · rw [session]
            exact active
          · rw [session]
            exact count
          · exact fun link member => opened link ((Session.mem_marks rfl).2 member)
          · exact fun number member => retired number ((Session.mem_marks rfl).2 member)
          · rw [session]
            exact fun engaged => (deed.engaged engaged).2
          · exact fun _ => running
          · intro _ link used waits
            rw [session] at used
            rw [inbox]
            -- The end of the transport in use would have put it out of use.
            have other : input ≠ .transport link.number .failed := by
              rintro rfl
              cases used.symm.trans (failed_unused life running (active.symm.trans used))
            exact mem_eraseIdx here waits other
      | dropped unused count opened retired =>
          refine custody.dropped wiring network ?_ ?_ ?_ ?_
          · rw [session]
            exact unused
          · rw [session]
            exact count
          · exact fun link member => opened link ((Session.mem_marks rfl).2 member)
          · exact fun link used => (Session.mem_marks rfl).1 (retired link used)
      | opened kind unused active count alone =>
          refine custody.opened wiring network unused ?_ ?_ alone ?_
          · rw [session]
            exact active
          · rw [session]
            exact count
          · rw [session]
            intro engaged
            have same := (deed.engaged engaged).1
            have before : s.session.stance.active = none := congrArg (Option.map Link.number) unused
            have after := congrArg (Option.map Link.number) active
            cases (after.symm.trans (same.trans before))

theorem Custody.happen (custody : s.Custody) (lived : s.Lived) (happening : Happening) :
    (s.happen happening).Custody := by
  refine happen_keeps custody ?_ ?_ ?_ ?_ ?_
  · exact fun count input _ => custody.call input count
  · exact fun move stirs => custody.stir lived stirs
  · exact custody.collect
  · exact fun place input here => custody.handle lived here
  · exact fun _ => custody.aborted

end Handle

/-- **Whatever happens, the transports of a stack are in the hands of its session.** -/
theorem custody_arisen (setup : Setup) (wiring : Wiring) (happenings : List Happening) :
    (arisen setup wiring happenings).Custody := by
  induction happenings using List.reverseRecOn with
  | nil => exact ⟨⟨[], nofun, rfl⟩, rfl, fun _ _ => Network.gone_of_unbuilt (Nat.zero_le _), nofun⟩
  | append_singleton happenings happening ih =>
      rw [arisen_concat]
      exact ih.happen ((lived_new setup wiring).arise happenings) happening

end Stack

end Tether
