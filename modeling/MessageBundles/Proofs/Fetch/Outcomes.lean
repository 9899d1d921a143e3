import MessageBundles.About
import MessageBundles.Fetch.Fetcher
import MessageBundles.Proofs.Results

/-
  Outcomes — what a fetch over the web comes to, from the answers of the network alone

  A network is looked at one request at a time: a request is not sent, or no answer comes in time, or
  the connection ends without one, or there is an answer, which may lead elsewhere. From that follows
  which answer is the last one, and what a fetch makes of it. What is proved:
    1. `follow_of_leads` — following redirects goes on where they lead.
    2. `stops_or_leads` — within any limit the redirects stop, or there is one that leads beyond it.
    3. `get_cases` — an exchange has a last answer, or times out, or fails for want of an answer.
    4. `fetch_web_outcome` — each kind of result of a fetch, exactly where it arises, for every client,
       network and locator.
    5. `fetch_web_not_joined` — a locator with a scheme of its own is not joined onto the base, even
       where it could be.
-/

namespace MessageBundles.Web

/-- What one request comes to. -/
inductive Reply where
  | unsent
  | late
  -- The connection ended before there was an answer.
  | lost
  | answer (r : Resource)

/-- Whether a request was sent, whatever became of it. -/
def Reply.isSent : Reply → Bool
  | .late | .lost | .answer _ => true
  | .unsent => false

/-- The answer to a request for a URL at which there is nothing. -/
def Resource.missing : Resource := ⟨404, [], none, none, none⟩

/-- What a single request for a URL comes to. Only plain requests are sent. -/
def Network.reply (n : Network) (u : Url) : Reply :=
  match n with
  | .unreachable => .unsent
  | .answering resource? =>
    if u.scheme = "http".toList then
      let r := (resource? (requestUrl u)).getD Resource.missing
      if r.fault = some .stalled then .late
      else if r.fault = some .dropped then .lost
      else .answer r
    else .unsent

/-- So many redirects lead from a URL to another. There is no request for a URL without a host. -/
inductive Network.Leads (n : Network) (u : Url) : Nat → Url → Prop where
  | start (h : u.hasHost = true) : Leads n u 0 u
  | redirect {k : Nat} {v w : Url} {r : Resource} (h : Leads n u k v) (hreply : n.reply v = .answer r)
      (hnext : r.next? v = some w) : Leads n u (k + 1) w

/-- The answer to a request for a URL, if there is any, does not lead elsewhere. -/
def Network.Stops (n : Network) (u : Url) : Prop :=
  ∀ r w, n.reply u = .answer r → r.next? u ≠ some w

/-- The last answer to a request for a URL: one that leads nowhere else, behind no more redirects than
are followed. -/
def Network.LastAnswer (n : Network) (u : Url) (r : Resource) : Prop :=
  ∃ k v, k ≤ maxRedirects ∧ n.Leads u k v ∧ n.reply v = .answer r ∧ r.next? v = none

/-- There is no answer in time. -/
def Network.TimesOut (n : Network) (u : Url) : Prop :=
  ∃ k v, k ≤ maxRedirects ∧ n.Leads u k v ∧ n.reply v = .late

/-- Whether all of the body of an answer arrives, if it has one. -/
def Resource.isComplete (r : Resource) : Bool := isBodiless r.status || r.fault != some .truncated

def Resource.text (r : Resource) : String :=
  if isBodiless r.status then "" else bodyText r.contentType r.body

/-- What the reason starts with where an answer was refused for its status. -/
def statusStart : List Char := "HTTP ".toList

/-- Whether the reason tells of something else than the status of an answer. -/
def IsTransport (f : RequestFault) : Prop := ¬ statusStart <+: f.message.toList

/-- Whether a locator stands for a URL: by itself, or, where it has no scheme of its own, joined onto
the base of the client. -/
def Client.Means (c : Client) (locator : String) (u : Url) : Prop :=
  Url.parse locator = .ok u ∨
    (Url.parse locator = .error .relativeWithoutBase ∧ ∃ base, c.base = some base ∧
      base.join locator = .ok u)

/-! ## Last answers -/

theorem status_ne_of_isSuccess {code : Nat} (h : isSuccess code = true) : code ≠ 404 := by
  rintro rfl
  exact absurd h (by decide)

/-- What is made of a last answer: its status decides, and then whether its body is there. -/
theorem final_cases (r : Resource) :
    (r.status = 404 ∧ r.final = .error .notFound) ∨
    (r.status ≠ 404 ∧ isSuccess r.status = false ∧
      r.final = .error (.requestFailed (.status r.status))) ∨
    (isSuccess r.status = true ∧ r.isComplete = true ∧ r.final = .ok r.text) ∨
    (isSuccess r.status = true ∧ r.isComplete = false ∧
      r.final = .error (.requestFailed .truncated)) := by
  by_cases hmissing : r.status = 404
  · exact .inl ⟨hmissing, final_eq_notFound.mpr hmissing⟩
  have hmissing' : r.status ≠ notFoundCode := hmissing
  unfold Resource.final Resource.isComplete Resource.text
  rw [if_neg hmissing']
  cases hsuccess : isSuccess r.status with
  | false => simp [hmissing]
  | true =>
    cases hbodiless : isBodiless r.status with
    | true => simp
    | false => by_cases hfault : r.fault = some .truncated <;> simp [hfault]

theorem final_eq_status_iff {r : Resource} {code : Nat} :
    r.final = .error (.requestFailed (.status code)) ↔
      r.status = code ∧ code ≠ 404 ∧ isSuccess code = false := by
  rcases final_cases r with ⟨hmissing, hfinal⟩ | ⟨hne, hsuccess, hfinal⟩ | ⟨hsuccess, -, hfinal⟩ |
    ⟨hsuccess, -, hfinal⟩ <;> grind

theorem final_eq_ok_iff {r : Resource} {text : String} :
    r.final = .ok text ↔ isSuccess r.status = true ∧ r.isComplete = true ∧ r.text = text := by
  rcases final_cases r with ⟨hmissing, hfinal⟩ | ⟨hne, hsuccess, hfinal⟩ |
    ⟨hsuccess, hcomplete, hfinal⟩ | ⟨hsuccess, hcomplete, hfinal⟩
  · simp [hfinal, hmissing, isSuccess]
  · simp [hfinal, hsuccess]
  · simp [hfinal, hsuccess, hcomplete]
  · simp [hfinal, hcomplete]

theorem final_of_incomplete {r : Resource} (hsuccess : isSuccess r.status = true)
    (hcomplete : r.isComplete = false) : r.final = .error (.requestFailed .truncated) := by
  rcases final_cases r with ⟨hmissing, -⟩ | ⟨-, hfailure, -⟩ | ⟨-, hwhole, -⟩ | ⟨-, -, hfinal⟩
  · exact absurd hmissing (status_ne_of_isSuccess hsuccess)
  · rw [hsuccess] at hfailure
    cases hfailure
  · rw [hcomplete] at hwhole
    cases hwhole
  · exact hfinal

theorem Resource.final_ne_timedOut (r : Resource) : r.final ≠ .error .timedOut := by
  rcases final_cases r with ⟨-, hfinal⟩ | ⟨-, -, hfinal⟩ | ⟨-, -, hfinal⟩ | ⟨-, -, hfinal⟩ <;>
    simp [hfinal]

/-! ## Reasons -/

theorem isTransport_of_append {f : RequestFault} {a b : String} (hmessage : f.message = a ++ b)
    (hlength : 5 ≤ a.toList.length) (ha : ¬ statusStart <+: a.toList) : IsTransport f := by
  unfold IsTransport
  rw [hmessage, String.toList_append]
  intro h
  exact ha (List.prefix_of_prefix_length_le h (List.prefix_append _ _) hlength)

theorem not_isTransport_status (code : Nat) : ¬ IsTransport (.status code) := by
  have hmessage : (RequestFault.status code).message = "HTTP " ++ statusText code := rfl
  unfold IsTransport
  rw [hmessage, String.toList_append]
  exact fun h => h (List.prefix_append _ _)

/-- No reason reads like a status but that of a status. -/
theorem isTransport_of_ne {f : RequestFault}
    (h : ∀ code reason, f ≠ .status code ∧ f ≠ .other reason) : IsTransport f := by
  cases f with
  | status code => exact absurd rfl (h code "").1
  | unsupportedScheme url =>
    exact isTransport_of_append (a := "builder error for url (") String.append_assoc (by decide)
      (by decide)
  | unreachable url =>
    exact isTransport_of_append (a := "error sending request for url (") String.append_assoc
      (by decide) (by decide)
  | unresolved url =>
    exact isTransport_of_append (a := "error sending request for url (")
      ((congrArg (· ++ _) (String.append_assoc ..)).trans String.append_assoc) (by decide) (by decide)
  | dropped url =>
    exact isTransport_of_append (a := "error sending request for url (") String.append_assoc
      (by decide) (by decide)
  | tooManyRedirects url =>
    exact isTransport_of_append (a := "error following redirect for url (") String.append_assoc
      (by decide) (by decide)
  | truncated =>
    exact isTransport_of_append
      (a := "request or response body error: error reading a body from connection: ") rfl (by decide)
      (by decide)
  | other reason => exact absurd rfl (h 0 reason).2

theorem isTransport_ite {p : Prop} [Decidable p] {f g : RequestFault} (hf : IsTransport f)
    (hg : IsTransport g) : IsTransport (if p then f else g) := by
  split
  · exact hf
  · exact hg

/-! ## Requests one after the other -/

section Following
variable {resource? : String → Option Resource} {n : Network} {u v : Url} {limit k : Nat}

/-- What following does with the reply to the next request. -/
theorem follow_eq (resource? : String → Option Resource) (limit : Nat) (u : Url) :
    follow resource? limit u = match (Network.answering resource?).reply u with
      | .unsent => ⟨[], .error (.requestFailed
          (if u.scheme = "https".toList then .unreachable (shownUrl u)
           else .unsupportedScheme (shownUrl u)))⟩
      | .late => ⟨[requestUrl u], .error .timedOut⟩
      | .lost => ⟨[requestUrl u], .error (.requestFailed (.dropped (shownUrl u)))⟩
      | .answer r =>
        match r.next? u, limit with
        | none, _ => ⟨[requestUrl u], r.final⟩
        | some _, 0 => ⟨[requestUrl u], .error (.requestFailed (.tooManyRedirects (shownUrl u)))⟩
        | some next, limit + 1 =>
          ⟨requestUrl u :: (follow resource? limit next).requests,
            (follow resource? limit next).result⟩ := by
  rw [follow]
  by_cases hsecure : u.scheme = "https".toList
  · have hplain : u.scheme ≠ "http".toList := by
      rw [hsecure]
      decide
    rw [if_pos hsecure, Network.reply, if_neg hplain, if_pos hsecure]
  · rw [if_neg hsecure]
    by_cases hplain : u.scheme = "http".toList
    · rw [if_neg fun h => h hplain, Network.reply]
      dsimp only
      rw [if_pos hplain]
      cases hres : resource? (requestUrl u) with
      | none => rfl
      | some r =>
        dsimp only [Option.getD]
        by_cases hstalled : r.fault = some .stalled
        · rw [if_pos hstalled, if_pos hstalled]
        rw [if_neg hstalled, if_neg hstalled]
        by_cases hdropped : r.fault = some .dropped
        · rw [if_pos hdropped, if_pos hdropped]
        rw [if_neg hdropped, if_neg hdropped]
        cases hnext : r.next? u with
        | none => cases limit <;> simp only [hnext]
        | some next => cases limit <;> simp only [hnext]
    · rw [if_pos hplain, Network.reply, if_neg hplain, if_neg hsecure]

/-- Following redirects goes on where they lead. -/
theorem follow_of_leads (h : (Network.answering resource?).Leads u k v) (hk : k ≤ limit) :
    (follow resource? limit u).result = (follow resource? (limit - k) v).result := by
  induction h with
  | start h => rfl
  | @redirect k v w r h hreply hnext ih =>
    obtain ⟨left, hleft⟩ : ∃ left, limit - k = left + 1 := ⟨limit - k - 1, by omega⟩
    rw [ih (by omega), follow_eq, hreply, hleft]
    simp only [hnext]
    rw [show limit - (k + 1) = left by omega]

/-- The first request is for the URL itself. -/
theorem follow_head? : (follow resource? limit u).requests.head? =
    if ((Network.answering resource?).reply u).isSent then some (requestUrl u) else none := by
  rw [follow_eq]
  cases (Network.answering resource?).reply u with
  | unsent => rfl
  | late => rfl
  | lost => rfl
  | answer r =>
    cases hnext : r.next? u with
    | none => simp only [hnext]; rfl
    | some next => cases limit <;> (simp only [hnext]; rfl)

/-- A request is the first one, or one of those where the answer to the first one leads. -/
theorem mem_follow_requests {request : String} (h : request ∈ (follow resource? limit u).requests) :
    request = requestUrl u ∨ ∃ r next left, limit = left + 1 ∧
      (Network.answering resource?).reply u = .answer r ∧ r.next? u = some next ∧
      request ∈ (follow resource? left next).requests := by
  rw [follow_eq] at h
  cases hreply : (Network.answering resource?).reply u with
  | unsent => simp only [hreply, List.not_mem_nil] at h
  | late | lost =>
    simp only [hreply, List.mem_singleton] at h
    exact .inl h
  | answer r =>
    cases hnext : r.next? u with
    | none =>
      simp only [hreply, hnext, List.mem_singleton] at h
      exact .inl h
    | some next =>
      cases limit with
      | zero =>
        simp only [hreply, hnext, List.mem_singleton] at h
        exact .inl h
      | succ left =>
        simp only [hreply, hnext, List.mem_cons] at h
        exact h.imp_right fun hrest => ⟨r, next, left, rfl, rfl, hnext, hrest⟩

/-- Every request is for a URL the redirects lead to. -/
theorem follow_requests_leads {start : Url} {j : Nat} {request : String}
    (h : (Network.answering resource?).Leads start j u)
    (hrequest : request ∈ (follow resource? limit u).requests) :
    ∃ k v, k ≤ j + limit ∧ (Network.answering resource?).Leads start k v ∧
      request = requestUrl v := by
  induction limit generalizing j u with
  | zero =>
    rcases mem_follow_requests hrequest with heq | ⟨r, next, left, hleft, -⟩
    · exact ⟨j, u, Nat.le_add_right j 0, h, heq⟩
    · cases hleft
  | succ limit ih =>
    rcases mem_follow_requests hrequest with heq | ⟨r, next, left, hleft, hreply, hnext, hrest⟩
    · exact ⟨j, u, Nat.le_add_right j _, h, heq⟩
    · cases hleft
      obtain ⟨k, v, hk, hleads, heq⟩ := ih (h.redirect hreply hnext) hrest
      exact ⟨k, v, by omega, hleads, heq⟩

theorem exists_next_of_not_stops (h : ¬ n.Stops u) :
    ∃ r w, n.reply u = .answer r ∧ r.next? u = some w := by
  simpa [Network.Stops] using h

theorem hasHost_of_leads (h : n.Leads u k v) : u.hasHost = true := by
  induction h with
  | start h => exact h
  | redirect _ _ _ ih => exact ih

/-- Within any limit the redirects stop, or there is one that leads beyond it. -/
theorem stops_or_leads (h : u.hasHost = true) (limit : Nat) :
    (∃ k v, k ≤ limit ∧ n.Leads u k v ∧ n.Stops v) ∨ ∃ v, n.Leads u limit v ∧ ¬ n.Stops v := by
  induction limit with
  | zero =>
    by_cases hstops : n.Stops u
    · exact .inl ⟨0, u, Nat.le_refl 0, .start h, hstops⟩
    · exact .inr ⟨u, .start h, hstops⟩
  | succ limit ih =>
    rcases ih with ⟨k, v, hk, hleads, hstops⟩ | ⟨v, hleads, hgoes⟩
    · exact .inl ⟨k, v, Nat.le_succ_of_le hk, hleads, hstops⟩
    · obtain ⟨r, w, hreply, hnext⟩ := exists_next_of_not_stops hgoes
      by_cases hstops : n.Stops w
      · exact .inl ⟨limit + 1, w, Nat.le_refl _, hleads.redirect hreply hnext, hstops⟩
      · exact .inr ⟨w, hleads.redirect hreply hnext, hstops⟩

end Following

/-! ## Exchanges -/

section Exchanges
variable {resource? : String → Option Resource} {n : Network} {u v : Url} {r : Resource}

theorem get_eq_follow (h : u.hasHost = true) :
    (Network.answering resource?).get u = follow resource? maxRedirects u := by
  have hguard : (!u.hasHost || (u.scheme ≠ "http".toList && u.scheme ≠ "https".toList)) = true ↔
      u.scheme ≠ "http".toList ∧ u.scheme ≠ "https".toList := by
    rw [h, Bool.not_true, Bool.false_or, Bool.and_eq_true, decide_eq_true_iff, decide_eq_true_iff]
  unfold Network.get
  by_cases hother : u.scheme ≠ "http".toList ∧ u.scheme ≠ "https".toList
  · rw [if_pos (hguard.mpr hother), follow, if_neg hother.2, if_pos hother.1]
  · rw [if_neg (mt hguard.mp hother)]

/-- An exchange fails before its first request, or it follows the answers of a network. -/
theorem get_eq_or_follow (n : Network) (u : Url) :
    (∃ fault, IsTransport fault ∧ n.get u = ⟨[], .error (.requestFailed fault)⟩ ∧
      (u.hasHost && (n.reply u).isSent) = false) ∨
    (u.hasHost = true ∧ ∃ resource?, n = .answering resource? ∧
      n.get u = follow resource? maxRedirects u) := by
  cases hhost : u.hasHost with
  | false =>
    refine .inl ⟨.unsupportedScheme (shownUrl u), isTransport_of_ne (by simp), ?_, rfl⟩
    simp only [Network.get, hhost, Bool.not_false, Bool.true_or, if_true]
  | true =>
    cases n with
    | unreachable =>
      unfold Network.get
      split
      · exact .inl ⟨_, isTransport_of_ne (by simp), rfl, rfl⟩
      · exact .inl ⟨_, isTransport_ite (isTransport_of_ne (by simp)) (isTransport_of_ne (by simp)),
          rfl, rfl⟩
    | answering resource? => exact .inr ⟨rfl, resource?, rfl, get_eq_follow hhost⟩

theorem get_of_lastAnswer (h : n.LastAnswer u r) : (n.get u).result = r.final := by
  obtain ⟨k, v, hk, hleads, hreply, hnext⟩ := h
  cases n with
  | unreachable => cases hreply
  | answering resource? =>
    rw [get_eq_follow (hasHost_of_leads hleads), follow_of_leads hleads hk, follow_eq, hreply]
    simp only [hnext]

theorem get_of_timesOut (h : n.TimesOut u) : (n.get u).result = .error .timedOut := by
  obtain ⟨k, v, hk, hleads, hreply⟩ := h
  cases n with
  | unreachable => cases hreply
  | answering resource? =>
    rw [get_eq_follow (hasHost_of_leads hleads), follow_of_leads hleads hk, follow_eq, hreply]

/-- An exchange has a last answer, or times out, or fails for want of an answer. -/
theorem get_cases (n : Network) (u : Url) : (∃ r, n.LastAnswer u r) ∨ n.TimesOut u ∨
    ∃ fault, IsTransport fault ∧ (n.get u).result = .error (.requestFailed fault) := by
  rcases get_eq_or_follow n u with ⟨fault, htransport, hget, -⟩ | ⟨hhost, resource?, rfl, hget⟩
  · exact .inr (.inr ⟨fault, htransport, by rw [hget]⟩)
  · rw [hget]
    rcases stops_or_leads (n := .answering resource?) hhost maxRedirects with
      ⟨k, v, hk, hleads, hstops⟩ | ⟨v, hleads, hgoes⟩
    · -- What is made of the reply at which the redirects stop.
      rw [follow_of_leads hleads hk, follow_eq]
      cases hreply : (Network.answering resource?).reply v with
      | unsent =>
        exact .inr (.inr ⟨_, isTransport_ite (isTransport_of_ne (by simp))
          (isTransport_of_ne (by simp)), rfl⟩)
      | late => exact .inr (.inl ⟨k, v, hk, hleads, hreply⟩)
      | lost => exact .inr (.inr ⟨_, isTransport_of_ne (by simp), rfl⟩)
      | answer r =>
        have hnext : r.next? v = none :=
          Option.eq_none_iff_forall_ne_some.mpr fun w => hstops r w hreply
        exact .inl ⟨r, k, v, hk, hleads, hreply, hnext⟩
    · -- One redirect too many.
      obtain ⟨r, w, hreply, hnext⟩ := exists_next_of_not_stops hgoes
      rw [follow_of_leads hleads (Nat.le_refl _), Nat.sub_self, follow_eq, hreply]
      simp only [hnext]
      exact .inr (.inr ⟨_, isTransport_of_ne (by simp), rfl⟩)

/-- A result that only an answer brings is brought by the last answer. -/
theorem get_result_iff {result : Except FetchCause String} (hlate : result ≠ .error .timedOut)
    (htransport : ∀ fault, IsTransport fault → result ≠ .error (.requestFailed fault)) :
    (n.get u).result = result ↔ ∃ r, n.LastAnswer u r ∧ r.final = result := by
  constructor
  · rintro rfl
    rcases get_cases n u with ⟨r, hlast⟩ | htimesOut | ⟨fault, hfault, hresult⟩
    · exact ⟨r, hlast, (get_of_lastAnswer hlast).symm⟩
    · exact absurd (get_of_timesOut htimesOut) hlate
    · exact absurd hresult (htransport fault hfault)
  · rintro ⟨r, hlast, rfl⟩
    exact get_of_lastAnswer hlast

theorem get_timedOut_iff : (n.get u).result = .error .timedOut ↔ n.TimesOut u := by
  refine ⟨fun h => ?_, get_of_timesOut⟩
  rcases get_cases n u with ⟨r, hlast⟩ | htimesOut | ⟨fault, -, hresult⟩
  · exact absurd ((get_of_lastAnswer hlast).symm.trans h) r.final_ne_timedOut
  · exact htimesOut
  · cases hresult.symm.trans h

theorem get_notFound_iff :
    (n.get u).result = .error .notFound ↔ ∃ r, n.LastAnswer u r ∧ r.status = 404 := by
  rw [get_result_iff (by simp) (by simp)]
  simp only [final_eq_notFound, notFoundCode]

theorem get_status_iff {code : Nat} :
    (n.get u).result = .error (.requestFailed (.status code)) ↔
      ∃ r, n.LastAnswer u r ∧ r.status = code ∧ code ≠ 404 ∧ isSuccess code = false := by
  have htransport : ∀ fault, IsTransport fault →
      (.error (.requestFailed (.status code)) : Except FetchCause String) ≠
        .error (.requestFailed fault) := by
    rintro _ hfault ⟨⟩
    exact not_isTransport_status code hfault
  rw [get_result_iff (by simp) htransport]
  simp only [final_eq_status_iff]

theorem get_ok_iff {text : String} : (n.get u).result = .ok text ↔
    ∃ r, n.LastAnswer u r ∧ isSuccess r.status = true ∧ r.isComplete = true ∧ r.text = text := by
  rw [get_result_iff (by simp) (by simp)]
  simp only [final_eq_ok_iff]

/-- Without an answer in time, and but for a last answer that is a text or a refusal, the request
failed. -/
theorem get_of_no_answer (hlate : ¬ n.TimesOut u)
    (hanswer : ∀ r, n.LastAnswer u r → isSuccess r.status = true ∧ r.isComplete = false) :
    ∃ fault, IsTransport fault ∧ (n.get u).result = .error (.requestFailed fault) := by
  rcases get_cases n u with ⟨r, hlast⟩ | htimesOut | hfault
  · obtain ⟨hsuccess, hcomplete⟩ := hanswer r hlast
    refine ⟨.truncated, isTransport_of_ne (by simp), ?_⟩
    rw [get_of_lastAnswer hlast, final_of_incomplete hsuccess hcomplete]
  · exact absurd htimesOut hlate
  · exact hfault

theorem get_head? : (n.get u).requests.head? =
    if u.hasHost && (n.reply u).isSent then some (requestUrl u) else none := by
  rcases get_eq_or_follow n u with ⟨fault, -, hget, hunsent⟩ | ⟨hhost, resource?, rfl, hget⟩
  · rw [hget, hunsent]
    rfl
  · rw [hget, hhost, Bool.true_and]
    exact follow_head?

theorem get_requests {request : String} (hrequest : request ∈ (n.get u).requests) :
    ∃ k v, k ≤ maxRedirects ∧ n.Leads u k v ∧ request = requestUrl v := by
  rcases get_eq_or_follow n u with ⟨fault, -, hget, -⟩ | ⟨hhost, resource?, rfl, hget⟩
  · rw [hget] at hrequest
    cases hrequest
  · rw [hget] at hrequest
    obtain ⟨k, v, hk, hleads, heq⟩ := follow_requests_leads (.start hhost) hrequest
    exact ⟨k, v, by omega, hleads, heq⟩

end Exchanges

/-! ## Locators -/

section Locators
variable {c : Client} {n : Network} {locator : String} {u : Url}

theorem resolve_eq_ok_iff : c.resolve locator = .ok u ↔ c.Means locator u := by
  unfold Client.resolve Client.Means
  cases hparse : Url.parse locator with
  | ok own => simp
  | error e =>
    cases e
    case relativeWithoutBase =>
      cases hbase : c.base with
      | none => simp
      | some base => cases hjoin : base.join locator <;> simp [hjoin]
    all_goals simp

theorem get_of_means (h : c.Means locator u) : c.get n locator = n.get u := by
  rw [Client.get, resolve_eq_ok_iff.mpr h]

/-- Nothing is asked for a locator that stands for no URL. -/
theorem get_of_not_means (h : ∀ u, ¬ c.Means locator u) :
    ∃ fault, c.get n locator = ⟨[], .error (.invalidLocator fault)⟩ := by
  cases hresolve : c.resolve locator with
  | ok u => exact absurd (resolve_eq_ok_iff.mp hresolve) (h u)
  | error fault => exact ⟨fault, by rw [Client.get, hresolve]⟩

end Locators

end Web

namespace Fetcher

open Web

section Client
variable {c : Client} {w : World} {locator : String}

theorem fetch_web_ok_iff {text : String} : ((web c).fetch w locator).result = .ok text ↔
    (c.get w.network locator).result = .ok text := by
  simp only [fetch]
  cases (c.get w.network locator).result <;> simp

theorem fetch_web_error_iff {cause : FetchCause} :
    ((web c).fetch w locator).result = .error ⟨locator, cause⟩ ↔
      (c.get w.network locator).result = .error cause := by
  simp only [fetch]
  cases (c.get w.network locator).result <;> simp

end Client

/-- What a fetch over the web comes to. A locator that stands for no URL is invalid, and nothing is
asked. One that stands for a URL is asked for first, then where the redirects lead, and the last
answer decides by its status and its body; without a last answer, the fetch timed out, or its request
failed for another reason than a status. -/
theorem fetch_web_outcome (c : Client) (w : World) (locator : String) :
    (∀ u, c.Means locator u →
      ((web c).fetch w locator).requests.head? =
          (if u.hasHost && (w.network.reply u).isSent then some (requestUrl u) else none) ∧
        (∀ request ∈ ((web c).fetch w locator).requests,
          ∃ k v, k ≤ maxRedirects ∧ w.network.Leads u k v ∧ request = requestUrl v) ∧
        (((web c).fetch w locator).result = .error ⟨locator, .timedOut⟩ ↔ w.network.TimesOut u) ∧
        (((web c).fetch w locator).result = .error ⟨locator, .notFound⟩ ↔
          ∃ r, w.network.LastAnswer u r ∧ r.status = 404) ∧
        (∀ code, ((web c).fetch w locator).result = .error ⟨locator, .requestFailed (.status code)⟩ ↔
          ∃ r, w.network.LastAnswer u r ∧ r.status = code ∧ code ≠ 404 ∧ isSuccess code = false) ∧
        (∀ text, ((web c).fetch w locator).result = .ok text ↔
          ∃ r, w.network.LastAnswer u r ∧ isSuccess r.status = true ∧ r.isComplete = true ∧
            r.text = text) ∧
        (¬ w.network.TimesOut u →
          (∀ r, w.network.LastAnswer u r → isSuccess r.status = true ∧ r.isComplete = false) →
          ∃ fault, IsTransport fault ∧
            ((web c).fetch w locator).result = .error ⟨locator, .requestFailed fault⟩)) ∧
      ((∀ u, ¬ c.Means locator u) →
        ∃ fault, (web c).fetch w locator = ⟨[], .error ⟨locator, .invalidLocator fault⟩⟩) := by
  constructor
  · intro u hmeans
    have hget : c.get w.network locator = w.network.get u := get_of_means hmeans
    rw [fetch_web_error_iff, fetch_web_error_iff, hget]
    simp only [fetch_web_error_iff, fetch_web_ok_iff, hget]
    refine ⟨?_, ?_, get_timedOut_iff, get_notFound_iff, fun code => get_status_iff,
      fun text => get_ok_iff, get_of_no_answer⟩
    · rw [fetch, hget]
      exact get_head?
    · rw [fetch, hget]
      exact fun request => get_requests
  · intro h
    obtain ⟨fault, hget⟩ := get_of_not_means (n := w.network) h
    exact ⟨fault, by rw [fetch, hget]⟩

def urlOf (path : List String) : Url where
  scheme := "http".toList
  username := []
  password := []
  host := some (.domain "host".toList)
  port := none
  path := .segments (path.map String.toList)
  query := none
  fragment := none

/-- A world where one URL leads to another at which there is nothing. -/
def movedWorld : World where
  files := .ofEntries [] []
  network := .answering fun url =>
    if url = "http://host/old" then some ⟨302, [], none, some "new", none⟩ else none

/-- There is nothing at the end of a redirect. -/
theorem fetch_web_outcome_moved :
    ((web ⟨none, About.agent⟩).fetch movedWorld "http://host/old").requests.head? =
        some "http://host/old" ∧
      ((web ⟨none, About.agent⟩).fetch movedWorld "http://host/old").result =
        .error ⟨"http://host/old", .notFound⟩ := by
  have hmeans : Client.Means ⟨none, About.agent⟩ "http://host/old" (urlOf ["old"]) :=
    .inl (eq_ok_of_toOption (by decide +kernel))
  obtain ⟨hhead, -, -, hmissing, -⟩ :=
    (fetch_web_outcome ⟨none, About.agent⟩ movedWorld "http://host/old").1 _ hmeans
  have hold : movedWorld.network.reply (urlOf ["old"]) =
      .answer ⟨302, [], none, some "new", none⟩ := rfl
  have hnew : movedWorld.network.reply (urlOf ["new"]) = .answer Resource.missing := rfl
  have hnext : Resource.next? ⟨302, [], none, some "new", none⟩ (urlOf ["old"]) =
      some (urlOf ["new"]) := by decide +kernel
  have hurl : requestUrl (urlOf ["old"]) = "http://host/old" := by decide +kernel
  constructor
  · rw [hhead, hold, ← hurl]
    rfl
  · exact hmissing.mpr ⟨Resource.missing, ⟨1, urlOf ["new"], by decide,
      (Network.Leads.start rfl).redirect hold hnext, hnew, rfl⟩, rfl⟩

/-- A locator with a scheme of its own and nothing behind it is no URL. It would join onto the base,
where there is a text, but only a locator without a scheme is joined. -/
theorem fetch_web_not_joined :
    ∃ (base : Url) (network : Network) (r : Resource), Url.parse "http://host/d/" = .ok base ∧
      (Url.parse "http:").toOption = none ∧ base.join "http:" = .ok base ∧
      network.reply base = .answer r ∧ r.next? base = none ∧ r.final = .ok "a=b" ∧
      (web ⟨some base, About.agent⟩).fetch ⟨.ofEntries [] [], network⟩ "http:" =
        ⟨[], .error ⟨"http:", .invalidLocator (.malformed .emptyHost)⟩⟩ := by
  refine ⟨urlOf ["d", ""], .answering fun _ => some ⟨200, "a=b".toUTF8.toList, none, none, none⟩,
    ⟨200, "a=b".toUTF8.toList, none, none, none⟩, ?_, ?_, ?_, rfl, rfl, ?_, ?_⟩
  · exact eq_ok_of_toOption (by decide +kernel)
  · decide +kernel
  · exact eq_ok_of_toOption (by decide +kernel)
  · exact eq_ok_of_toOption (by decide +kernel)
  · have hparse : Url.parse "http:" = .error .emptyHost := by rfl
    rw [fetch, Client.get, Client.resolve, hparse]

end Fetcher

end MessageBundles
