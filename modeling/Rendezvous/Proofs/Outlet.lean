import Rendezvous.Proofs.Channel
import Rendezvous.Session.Live

/-!
# What is done to connections

Everything a session does to the world outside goes through a few operations on
its outlet, and each of them is known by the channels it leaves: pushing offers a
frame to one channel (`channel_push_self`, `channel_push_ne`), delivering a list
offers its envelopes in order (`channel_deliverAll_self`), and asking to close
adds no envelope anywhere (`envelopes_close`).
-/

namespace Rendezvous.Outlet

/-- The channel of a connection. -/
def channel (o : Outlet) (id : ConnId) : Channel := o.lines.get id

/-- Every channel is sound. -/
def Sound (o : Outlet) : Prop := ∀ id, (o.channel id).Sound

theorem sound_empty : empty.Sound := fun _ => Channel.sound_gone

/-! ## One frame -/

/-- A push that is not refused offers the frame, and keeps no record of it. -/
theorem push_of_none {o : Outlet} {id : ConnId} (h : (o.channel id).refusal? = none)
    (f : Frame) :
    o.push id f = (.ok (), { o with lines := o.lines.set id ((o.channel id).offer f) }) := by
  have taken : (o.lines.get id).push f = .ok ((o.channel id).offer f) := by
    have accepted := Channel.push_of_none (c := o.lines.get id) h f
    rw [Channel.offer, channel, accepted]
    rfl
  rw [push, Lines.push, taken]
  rfl

theorem push_of_refusal {o : Outlet} {id : ConnId} {r : Refusal}
    (h : (o.channel id).refusal? = some r) (f : Frame) : o.push id f = (.error r, o) := by
  have refused : (o.lines.get id).push f = .error r := Channel.push_of_refusal h f
  rw [push, Lines.push, refused]
  rfl

/-- Either way the channel is one that was offered the frame. -/
@[simp] theorem channel_push_self (o : Outlet) (id : ConnId) (f : Frame) :
    (o.push id f).2.channel id = (o.channel id).offer f := by
  cases h : (o.channel id).refusal? with
  | none =>
    rw [push_of_none h]
    exact Lines.get_set_self ..
  | some r =>
    rw [push_of_refusal h, Channel.offer, Channel.push_of_refusal h]
    rfl

theorem channel_push_ne {id other : ConnId} (h : other ≠ id) (o : Outlet) (f : Frame) :
    (o.push id f).2.channel other = o.channel other := by
  cases refused : (o.channel id).refusal? with
  | none =>
    rw [push_of_none refused]
    exact Lines.get_set_ne h ..
  | some r => rw [push_of_refusal refused]

/-- A property of channels that offering a frame keeps is kept by pushing it. -/
theorem channel_push_induct {P : Channel → Prop} {o : Outlet} {id other : ConnId} {f : Frame}
    (offered : P ((o.channel other).offer f)) (kept : P (o.channel other)) :
    P ((o.push id f).2.channel other) := by
  by_cases h : other = id
  · subst h
    rw [channel_push_self]
    exact offered
  · rw [channel_push_ne h]
    exact kept

theorem sound_push {o : Outlet} (sound : o.Sound) (id : ConnId) (f : Frame) :
    (o.push id f).2.Sound := fun other =>
  channel_push_induct (Channel.sound_offerAll (sound other) [f]) (sound other)

/-! ## Asking to close -/

theorem channel_close_ne {id other : ConnId} (h : other ≠ id) (o : Outlet) (reason : String) :
    (o.close id reason).channel other = o.channel other :=
  channel_push_ne h ..

theorem envelopes_close (o : Outlet) (id other : ConnId) (reason : String) :
    ((o.close id reason).channel other).envelopes = (o.channel other).envelopes :=
  channel_push_induct (P := fun c => c.envelopes = (o.channel other).envelopes)
    (Channel.envelopes_offer _ rfl) rfl

theorem sound_close {o : Outlet} (sound : o.Sound) (id : ConnId) (reason : String) :
    (o.close id reason).Sound := sound_push sound id _

/-- Asking several connections to close adds no envelope anywhere. -/
theorem closeAll_spec {o : Outlet} (sound : o.Sound) (ids : List ConnId) (reason : String) :
    (ids.foldl (fun o id => o.close id reason) o).Sound ∧
    ∀ other, ((ids.foldl (fun o id => o.close id reason) o).channel other).envelopes
      = (o.channel other).envelopes := by
  induction ids generalizing o with
  | nil => exact ⟨sound, fun _ => rfl⟩
  | cons id rest ih =>
    obtain ⟨still, same⟩ := ih (sound_close sound id reason)
    refine ⟨still, fun other => ?_⟩
    rw [List.foldl_cons, same other, envelopes_close]

/-! ## Delivering -/

theorem deliver_of_none {o : Outlet} {id : ConnId} (h : (o.channel id).refusal? = none)
    (r : Role) (e : Envelope) :
    (o.deliver id r e).1 = .ok () := by
  rw [deliver, push_of_none h]

theorem deliver_of_refusal {o : Outlet} {id : ConnId} {refusal : Refusal}
    (h : (o.channel id).refusal? = some refusal) (r : Role) (e : Envelope) :
    (o.deliver id r e).1 = .error refusal := by
  rw [deliver, push_of_refusal h]

/-- Counting what came of a push does not touch the channels. -/
theorem lines_deliver (o : Outlet) (id : ConnId) (r : Role) (e : Envelope) :
    (o.deliver id r e).2.lines = (o.push id (.envelope e)).2.lines := by
  cases h : (o.channel id).refusal? with
  | none => rw [deliver, push_of_none h]
  | some refusal => rw [deliver, push_of_refusal h]

/-- To a channel a delivery is a push; the rest of it is bookkeeping. -/
theorem channel_deliver (o : Outlet) (id other : ConnId) (r : Role) (e : Envelope) :
    (o.deliver id r e).2.channel other = (o.push id (.envelope e)).2.channel other := by
  rw [channel, lines_deliver, channel]

theorem sound_deliver {o : Outlet} (sound : o.Sound) (id : ConnId) (r : Role) (e : Envelope) :
    (o.deliver id r e).2.Sound := fun other => by
  rw [channel_deliver]
  exact sound_push sound id _ other

theorem deliverAll_cons (o : Outlet) (id : ConnId) (r : Role) (e : Envelope)
    (rest : List Envelope) :
    (o.deliverAll id r (e :: rest)).2 = ((o.deliver id r e).2.deliverAll id r rest).2 := by
  rw [deliverAll]
  split
  next delivered => rw [delivered]
  next failed => rw [failed]

theorem sound_deliverAll {o : Outlet} (sound : o.Sound) (id : ConnId) (r : Role)
    (es : List Envelope) : (o.deliverAll id r es).2.Sound := by
  induction es generalizing o with
  | nil => exact sound
  | cons e rest ih =>
    rw [deliverAll_cons]
    exact ih (sound_deliver sound id r e)

/-- Of the envelopes of a list as many are refused as there is no room for. -/
theorem failed_deliverAll {o : Outlet} {id : ConnId} (sound : (o.channel id).Sound) (r : Role)
    (es : List Envelope) : (o.deliverAll id r es).1 = es.length - (o.channel id).free := by
  induction es generalizing o with
  | nil => exact (Nat.zero_sub _).symm
  | cons e rest ih =>
    have offered : (o.deliver id r e).2.channel id = (o.channel id).offer (.envelope e) := by
      rw [channel_deliver, channel_push_self]
    have stillSound : ((o.deliver id r e).2.channel id).Sound := by
      rw [offered]
      exact Channel.sound_offerAll sound [.envelope e]
    have later := ih stillSound
    rw [offered] at later
    rw [deliverAll, List.length_cons]
    -- A full channel refuses this message and all later ones. Otherwise it has one place less.
    rcases Nat.eq_zero_or_pos (o.channel id).free with full | free
    · rw [Channel.offer_of_full full] at later
      split
      next delivered =>
        have isOk := congrArg Prod.fst delivered
        cases refused : (o.channel id).refusal? with
        | none =>
          have free := (Channel.refusal?_eq_none_iff _).mp refused
          omega
        | some refusal =>
          rw [deliver_of_refusal refused] at isOk
          cases isOk
      next refused =>
        rw [refused] at later
        dsimp only at later ⊢
        omega
    · rw [Channel.offer_of_free free, Channel.free_append sound] at later
      split
      next delivered =>
        rw [delivered, List.length_singleton] at later
        dsimp only at later ⊢
        omega
      next refused =>
        have isError := congrArg Prod.fst refused
        rw [deliver_of_none ((Channel.refusal?_eq_none_iff _).mpr free)] at isError
        cases isError

/-- Delivering a list offers its envelopes to the channel in order. -/
theorem channel_deliverAll_self (o : Outlet) (id : ConnId) (r : Role) (es : List Envelope) :
    (o.deliverAll id r es).2.channel id = (o.channel id).offerAll (es.map .envelope) := by
  induction es generalizing o with
  | nil => rfl
  | cons e rest ih =>
    rw [deliverAll_cons, ih, channel_deliver, channel_push_self]
    rfl

theorem channel_deliverAll_ne {id other : ConnId} (h : other ≠ id) (o : Outlet) (r : Role)
    (es : List Envelope) : (o.deliverAll id r es).2.channel other = o.channel other := by
  induction es generalizing o with
  | nil => rfl
  | cons e rest ih => rw [deliverAll_cons, ih, channel_deliver, channel_push_ne h]

end Rendezvous.Outlet
