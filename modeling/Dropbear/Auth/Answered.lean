/-
# Every request is answered once

Each way through a userauth request ends the session or sends one message behind banners.
So every request that does not end the session is answered once, unless the PAM library
cannot be set up for it.
-/

import Dropbear.Auth.Replies
import Dropbear.Buffer.Consume

namespace Dropbear.Auth

open Program

/-- The messages that answer a request. -/
def IsAnswer (payload : Bytes) : Prop :=
  payload.head? = some msgUserauthSuccess.toUInt8 ∨
    payload.head? = some msgUserauthFailure.toUInt8 ∨
      payload.head? = some msgUserauthSpecific60.toUInt8

/-- Banners and then one answer have been sent. -/
def Answered (auth auth' : AuthState) : Prop :=
  ∃ banners answer, auth'.packets = auth.packets ++ banners ++ [answer] ∧
    (∀ banner ∈ banners, IsBanner banner) ∧ IsAnswer answer

section

variable {auth auth' middle : AuthState}

/-- An answer is not a banner, so nothing but banners is not an answer. -/
theorem Prepared.not_answered (only : Prepared auth auth') : ¬ Answered auth auth' := by
  rintro ⟨banners', answer, sent', _, isAnswer⟩
  obtain ⟨⟨banners, sent, all⟩, _⟩ := only
  rw [sent, List.append_assoc] at sent'
  have listed : answer ∈ banners := by
    rw [List.append_cancel_left sent']
    exact List.mem_append_right _ (List.mem_singleton_self _)
  have isBanner : answer.head? = some msgUserauthBanner.toUInt8 := all answer listed
  rw [IsAnswer, isBanner] at isAnswer
  revert isAnswer
  decide

/-- An answer behind banners. -/
theorem Prepared.answered (prepared : Prepared auth middle) {payload : Bytes}
    (isAnswer : IsAnswer payload) (sent : auth'.packets = middle.packets ++ [payload]) :
    Answered auth auth' := by
  obtain ⟨⟨banners, shown, all⟩, _⟩ := prepared
  exact ⟨banners, payload, by rw [sent, shown], all, isAnswer⟩

theorem packets_emitted_packet (payload : Bytes) :
    (auth.emitted (.packet payload)).packets = auth.packets ++ [payload] := by
  change (auth.events ++ [_]).filterMap _ = _
  rw [List.filterMap_append]
  rfl

theorem packets_failed (isPartial incrfail : Bool) :
    (auth.failed isPartial incrfail).packets =
      auth.packets ++ [userauthFailure auth.authtypes isPartial] := by
  cases incrfail <;> simp [AuthState.packets, AuthState.failed, Event.packet?]

/-- Every reply is an answer. -/
theorem Replied.answered {opts : SvrOpts} {result : EStateM.Result Exit AuthState Unit}
    (replied : Replied opts auth result) :
    Ends (fun _ => Answered auth) (fun _ _ => True) result := by
  induction replied with
  | ended failure after => trivial
  | failed prepared isPartial incrfail =>
    rw [sendMsgUserauthFailure_apply]
    split
    · trivial
    · exact prepared.answered (.inr (.inl rfl)) (packets_failed isPartial incrfail)
  | refused prepared =>
    rw [refuseKey_apply]
    split
    · trivial
    · exact prepared.answered (.inr (.inl rfl)) (packets_failed false _)
  | succeeded prepared => exact prepared.answered (.inl rfl) (packets_emitted_packet _)
  | pkOk prepared sigalgo keyblob =>
    exact prepared.answered (.inr (.inr rfl)) (packets_emitted_packet _)
  | cleaned _ ih => exact ih

end

/-- A request before authentication that does not end the session gets one answer, behind
any banners, and one after it gets none and changes nothing. -/
structure AnsweredOnce (build : Build) (ctx : Context) (request : BuiltRequest)
    (auth : AuthState) : Prop where
  answered : auth.authdone = false →
    ∀ auth', recvBuilt build ctx request auth = .ok () auth' → Answered auth auth'
  ignored : auth.authdone → recvBuilt build ctx request auth = .ok () auth

/-- **Every request is answered once**, exactly if the PAM library can be set up for those
that need it. -/
theorem answeredOnce_iff (build : Build) (ctx : Context) (request : BuiltRequest)
    (auth : AuthState) :
    AnsweredOnce build ctx request auth ↔
      (AsksPam build ctx request auth → PamReady request.pam) := by
  constructor
  · intro once asks
    by_contra notReady
    obtain ⟨isPam, notYet, username, payload, validUser, checked, read, ran, allowed, password,
      offered⟩ := asks
    have silent : recvBuilt build ctx request auth = .ok () checked := by
      rw [recvBuilt, userauthRequest_apply notYet, read]
      dsimp only
      rw [if_neg (not_not.2 rfl), EStateM.bind_of_ok ran, dispatchBuilt, EStateM.get_bind_apply,
        if_neg (by decide), if_pos ⟨allowed, rfl⟩, passwordRequest, isPam]
      exact svrAuthPam_of_not_ready validUser offered notReady
    have shown : Prepared auth checked := prepared_of_checkusername ran
    exact shown.not_answered (once.answered notYet checked silent)
  · intro ready
    refine ⟨fun notYet auth' ran => ?_, (userauthRequest_done · request.payload)⟩
    have answers := (replied_recvBuilt notYet ready).answered
    rw [ran] at answers
    exact answers

/-- A server on which every user has an account. -/
def pamContext : Context := plainContext fun _ => some (userAccount (ascii "x"))

/-- A password request in which `pam_start` fails. -/
def pamStartFails : BuiltRequest where
  beginning := 0
  payload := requestPayload (ascii "user") (ascii "password") (0 :: wireString (ascii "secret"))
    (by decide)
  pam :=
    { start := 26
      setTty := pamSuccess
      setRhost := pamSuccess
      authenticate := ⟨[], pamSuccess⟩
      acctMgmt := ⟨[], pamSuccess⟩ }

/-- **The request is not answered** if `pam_start` fails, and the session goes on. -/
theorem answeredOnce_pamStartFails :
    ∃ auth, recvBuilt ⟨.pam, true⟩ pamContext pamStartFails
        (svrAuthinitialise pamContext.opts none) = .ok () auth ∧ auth.packets = [] ∧
      ¬ AnsweredOnce ⟨.pam, true⟩ pamContext pamStartFails
        (svrAuthinitialise pamContext.opts none) := by
  have silent : (match recvBuilt ⟨.pam, true⟩ pamContext pamStartFails
      (svrAuthinitialise pamContext.opts none) with
      | .ok _ auth => some auth.packets
      | .error _ _ => none) = some [] := by decide +kernel
  split at silent
  case _ auth ran =>
    have nothing := Option.some_inj.1 silent
    refine ⟨auth, ran, nothing, fun once => ?_⟩
    obtain ⟨banners, answer, sent, _⟩ := once.answered rfl auth ran
    rw [nothing] at sent
    exact absurd (congrArg List.length sent) (by simp)
  case _ => cases silent

end Dropbear.Auth
