import SyncMaster.Queues.Names
import SyncMaster.Library.Templates
import SyncMaster.Library.Words

/-!
# Slugs of Queues

The slug of a queue is the number of its group, a hyphen, and what is left of
its name when letters are lowered and everything else is an underscore. A name
may begin with digits and a group may have a negative number, but what is left
of a name has no hyphen, so the last hyphen of a slug is the one in front of it
and the group can be read off.

What is left of a name is its words, joined by underscores. So two names are
the same to a slug just when they have the same words.

The slug is written once. Every later write of a queue takes the row as it is
and sets other columns, so in each state of a run the slug of a queue and its
group are those of the request that created it. Only the unique constraint on
slugs makes `create_queue` raise `DuplicatedQueueNameError`. The queue in the
way was therefore created in the same group, with a name of the same words. Its
name may be another one by now.

## Main definitions

* `shortName`: The part of the slug that is computed from the name.
* `nameWords`: The words of a name, in small letters.
* `CreatedBy`: A request of the run created the queue.

## Theorems

* `shortName_eq_iff`: Short names are the same when the words are.
* `slug_eq_iff`: Slugs are the same when the group and the short name are.
* `mem_queues_step`: Where the queues come from, event by event.
* `exists_createdBy`: And over runs.
* `duplicatedQueueName_only_in_group`: What is in the way of a new queue.
-/

namespace SyncMaster

open Program

/-! ## Short names -/

/-- What `RESTRICTED_PATTERN` matches. -/
def restricted (c : Char) : Bool := !c.isAlphanum

/-- The part of the slug that is computed from the name. -/
def shortName (name : String) : List Char :=
  stripUnderscores (replaceRestricted (name.toList.map Char.toLower))

section ShortNames

variable {c d : Char} {cs : List Char} {name name' : String}

theorem restricted_underscore : restricted '_' = true := by
  decide

theorem not_underscore (hc : restricted c = false) : ¬ (c == '_') = true := by
  intro heq
  rw [beq_iff_eq.mp heq, restricted_underscore] at hc
  cases hc

theorem replaceRestricted_cons (hc : restricted c = false) :
    replaceRestricted (c :: cs) = c :: replaceRestricted cs := by
  rw [restricted, Bool.not_eq_false'] at hc
  rw [replaceRestricted.eq_def]
  exact if_pos hc

theorem replaceRestricted_singleton (hc : restricted c = true) :
    replaceRestricted [c] = ['_'] := by
  rw [restricted, Bool.not_eq_true'] at hc
  rw [replaceRestricted, if_neg (Bool.eq_false_iff.mp hc)]

/-- The last character of a run brings the underscore. -/
theorem replaceRestricted_cons_cons (hc : restricted c = true) :
    replaceRestricted (c :: d :: cs) =
      if restricted d then replaceRestricted (d :: cs) else '_' :: replaceRestricted (d :: cs) := by
  rw [restricted, Bool.not_eq_true'] at hc
  rw [replaceRestricted.eq_def]
  dsimp only
  rw [if_neg (Bool.eq_false_iff.mp hc), restricted]
  cases d.isAlphanum with
  | true => rfl
  | false => rfl

theorem mem_replaceRestricted (hd : d ∈ replaceRestricted cs) :
    restricted d = false ∨ d = '_' := by
  induction cs with
  | nil => exact absurd hd List.not_mem_nil
  | cons c cs ih =>
      cases hc : restricted c with
      | false =>
          rw [replaceRestricted_cons hc] at hd
          rcases List.mem_cons.mp hd with rfl | hd
          · exact Or.inl hc
          · exact ih hd
      | true =>
          cases cs with
          | nil =>
              rw [replaceRestricted_singleton hc] at hd
              exact Or.inr (List.mem_singleton.mp hd)
          | cons e cs =>
              rw [replaceRestricted_cons_cons hc] at hd
              split at hd
              · exact ih hd
              · rcases List.mem_cons.mp hd with rfl | hd
                · exact Or.inr rfl
                · exact ih hd

/-- A short name has no hyphen. -/
theorem hyphen_not_mem_shortName : '-' ∉ shortName name := by
  intro hmem
  rw [shortName, stripUnderscores, List.mem_reverse] at hmem
  have hkept := (List.dropWhile_sublist _).subset hmem
  rw [List.mem_reverse] at hkept
  rcases mem_replaceRestricted ((List.dropWhile_sublist _).subset hkept) with h | h
  · exact absurd h (by decide)
  · exact absurd h (by decide)

theorem mem_words_restricted {word : List Char} (hword : word ∈ words restricted cs) :
    word ≠ [] ∧ '_' ∉ word := by
  rcases mem_words hword with ⟨hne, hchars⟩
  refine ⟨hne, fun hmem => ?_⟩
  have hkept := hchars _ hmem
  rw [restricted_underscore] at hkept
  cases hkept

/-- What stands in front of the words when underscores are stripped at the end
    only. -/
def lead (cs : List Char) : List Char :=
  if cs.head?.any restricted ∧ words restricted cs ≠ [] then ['_'] else []

theorem lead_cons (hc : restricted c = false) : lead (c :: cs) = [] := by
  rw [lead, if_neg]
  rintro ⟨hhead, _⟩
  rw [List.head?_cons, Option.any_some, hc] at hhead
  cases hhead

theorem lead_of_words_eq_nil (h : words restricted cs = []) : lead cs = [] :=
  if_neg (fun hlead => hlead.2 h)

theorem lead_of_restricted (hc : restricted c = true) (h : words restricted cs ≠ []) :
    lead (c :: cs) = ['_'] := by
  rw [lead, words_cons_of_separates hc]
  exact if_pos ⟨hc, h⟩

/-- A character that is kept begins a word, or it goes on with the first word. -/
theorem intercalate_words_cons (hc : restricted c = false) :
    ['_'].intercalate (words restricted (c :: cs)) =
      c :: (lead cs ++ ['_'].intercalate (words restricted cs)) := by
  cases cs with
  | nil =>
      rw [words_singleton hc]
      rfl
  | cons d cs =>
      cases hd : restricted d with
      | true =>
          rw [words_cons_cons_of_separates hc hd]
          -- A separator behind the character ends its word.
          have htail := words_cons_of_separates (l := cs) hd
          cases hwords : words restricted cs with
          | nil =>
              rw [hwords] at htail
              rw [lead_of_words_eq_nil htail, htail]
              rfl
          | cons word rest =>
              have hne : words restricted cs ≠ [] := by
                rw [hwords]
                exact List.cons_ne_nil word rest
              rw [lead_of_restricted hd hne, htail, hwords, List.intercalate_cons_cons]
              rfl
      | false =>
          rcases words_cons_cons (l := cs) hc hd with ⟨word, rest, hrest, heq⟩
          rw [lead_cons hd, List.nil_append, hrest, heq]
          cases rest with
          | nil => rw [List.intercalate_singleton, List.intercalate_singleton]
          | cons second rest =>
              rw [List.intercalate_cons_cons, List.intercalate_cons_cons]
              rfl

theorem intercalate_words_ne_nil (hd : restricted d = false) :
    ['_'].intercalate (words restricted (d :: cs)) ≠ [] := by
  rw [intercalate_words_cons hd]
  exact List.cons_ne_nil _ _

/-- The induction is on the text. An underscore stays in front of the words that
    follow it, and goes when none does. -/
theorem rdropWhile_replaceRestricted (cs : List Char) :
    (replaceRestricted cs).rdropWhile (· == '_') =
      lead cs ++ ['_'].intercalate (words restricted cs) := by
  induction cs with
  | nil => rfl
  | cons c cs ih =>
      cases hc : restricted c with
      | false =>
          rw [replaceRestricted_cons hc, rdropWhile_cons, if_neg (fun h => not_underscore hc h.2),
            ih, lead_cons hc, List.nil_append, intercalate_words_cons hc]
      | true =>
          have hwords := words_cons_of_separates (l := cs) hc
          cases cs with
          | nil =>
              rw [replaceRestricted_singleton hc, lead_of_words_eq_nil hwords, hwords]
              rfl
          | cons d cs =>
              rw [replaceRestricted_cons_cons hc, hwords]
              cases hd : restricted d with
              | true =>
                  -- The run goes on, so this character brings nothing.
                  rw [if_pos rfl, ih, lead, lead, hwords]
                  simp only [List.head?_cons, Option.any_some, hc, hd]
              | false =>
                  rw [if_neg Bool.false_ne_true, rdropWhile_cons, ih, lead_cons hd,
                    List.nil_append, lead_of_restricted hc (words_ne_nil hd), if_neg]
                  · rfl
                  · exact fun h => intercalate_words_ne_nil hd h.1

/-- What is left of a text is its words. -/
theorem stripUnderscores_replaceRestricted (cs : List Char) :
    stripUnderscores (replaceRestricted cs) = ['_'].intercalate (words restricted cs) := by
  have hstrip : ∀ ds, stripUnderscores ('_' :: ds) = stripUnderscores ds := fun _ => rfl
  induction cs with
  | nil => rfl
  | cons c cs ih =>
      cases hc : restricted c with
      | false =>
          -- There is nothing to strip in front of it.
          have hright := rdropWhile_replaceRestricted (c :: cs)
          rw [lead_cons hc, List.nil_append] at hright
          rw [← hright, replaceRestricted_cons hc, stripUnderscores, List.dropWhile_cons,
            if_neg (not_underscore hc)]
          rfl
      | true =>
          rw [words_cons_of_separates hc, ← ih]
          cases cs with
          | nil =>
              rw [replaceRestricted_singleton hc]
              rfl
          | cons d cs =>
              rw [replaceRestricted_cons_cons hc]
              split
              · rfl
              · exact hstrip _

/-- The words of a name, in small letters. They are what stands between characters that are
    no letters and no digits. -/
def nameWords (name : String) : List (List Char) :=
  words restricted (name.toList.map Char.toLower)

/-- Two names are the same to a slug just when they have the same words, whether
    in capitals or not. -/
theorem shortName_eq_iff : shortName name = shortName name' ↔ nameWords name = nameWords name' := by
  rw [shortName, shortName, stripUnderscores_replaceRestricted, stripUnderscores_replaceRestricted]
  constructor
  · exact intercalate_injective (fun _ => mem_words_restricted) (fun _ => mem_words_restricted)
  · intro h
    change ['_'].intercalate (nameWords name) = ['_'].intercalate (nameWords name')
    rw [h]

/-- The group is what stands in front of the last hyphen. -/
theorem slug_eq_iff {body body' : CreateQueueSchema} :
    body.slug = body'.slug ↔
      body.groupId = body'.groupId ∧ shortName body.name.val = shortName body'.name.val := by
  have htext : ∀ b : CreateQueueSchema,
      b.slug.toList = (toString b.groupId).toList ++ '-' :: shortName b.name.val := by
    intro b
    have hhyphen : "-".toList = ['-'] := rfl
    simp only [CreateQueueSchema.slug, shortName, String.toList_append, String.toList_ofList,
      hhyphen, List.append_assoc, List.singleton_append]
  rw [← String.toList_inj, htext, htext]
  constructor
  · intro h
    rcases cut_last_eq hyphen_not_mem_shortName hyphen_not_mem_shortName h with ⟨hgroup, hname⟩
    exact ⟨toString_int_injective (String.toList_inj.mp hgroup), hname⟩
  · rintro ⟨hgroup, hname⟩
    rw [hgroup, hname]

end ShortNames

/-! ## Requests -/

section Requests

variable {now : Time} {user : User} {db db' : Database} {e : Event} {q : Queue}

/-- Of the constraints on queues, the one on slugs is what the error stands for. -/
theorem exists_slug_of_violation {others : List Queue} {row : Queue} {err : Error}
    (h : firstViolation (Queue.model.constraints db others row) = .error err)
    (hdup : QueueRepository.raiseError err = .duplicatedQueueNameError) :
    ∃ r ∈ others, r.slug = row.slug := by
  unfold firstViolation at h
  split at h
  · rename_i check hfind
    rw [← Except.error.inj h] at hdup
    have hmem := List.mem_of_find?_eq_some hfind
    have hfails := List.find?_some hfind
    simp only [Queue.model, fits, List.mem_cons, List.not_mem_nil, or_false] at hmem
    -- The other constraints are reported as other errors.
    rcases hmem with rfl | rfl | rfl | rfl | rfl
    · cases hdup
    · cases hdup
    · cases hdup
    · rw [Bool.not_not, List.any_eq_true] at hfails
      rcases hfails with ⟨r, hr, hslug⟩
      exact ⟨r, hr, beq_iff_eq.mp hslug⟩
    · cases hdup
  · cases h

/-- `create_queue` says that a name is taken only if the slug is. -/
theorem exists_slug_of_duplicated {body : CreateQueueSchema}
    (h : Raises (createQueue now user body) db .duplicatedQueueNameError db') :
    ∃ q ∈ db.queues, q.slug = body.slug := by
  have hsafe : SafeAt (fun err => err = .duplicatedQueueNameError →
      ∃ q ∈ db.queues, q.slug = body.slug) (createQueue now user body) db := by
    unfold createQueue
    refine safeAt_bind.mpr ⟨safeAt_query.mpr (fun err herr hdup => ?_), fun _ _ hread => ?_⟩
    · rw [groupPermission_eq_error herr] at hdup
      cases hdup
    rw [← (returns_query.mp hread).2]
    refine safeAt_raiseIf_bind.mpr ⟨fun _ => nofun, fun _ => ?_⟩
    refine safeAt_raiseIf_bind.mpr ⟨fun _ => nofun, fun _ => ?_⟩
    -- The statement that may raise it is the insertion.
    refine safeAt_atomically.mpr (safeAt_bind.mpr ⟨safeAt_nextval, fun id u hnext => ?_⟩)
    rw [(returns_nextval.mp hnext).2]
    refine safeAt_catching.mpr (safeAt_insertRow.mpr (fun err herr hdup => ?_))
    exact exists_slug_of_violation herr hdup
  exact hsafe _ _ h rfl

/-- A queue after an event was there before, with its slug and its group, or the
    event created it. -/
theorem mem_queues_step (hq : q ∈ (db.step e).queues) :
    (∃ old ∈ db.queues, q.id = old.id ∧ q.slug = old.slug ∧ q.groupId = old.groupId) ∨
      ∃ now sent userId body, e = .request now sent userId (.createQueue body) ∧
        q = QueueRepository.created now (db.sequences .queue) body := by
  have hkept : (∀ r ∈ (db.step e).queues, r ∈ db.queues) → ∃ old ∈ db.queues,
      q.id = old.id ∧ q.slug = old.slug ∧ q.groupId = old.groupId :=
    fun h => ⟨q, h q hq, rfl, rfl, rfl⟩
  rcases step_outcome db e with hbackground | ⟨now, sent, userId, request, user, rfl, haccepted⟩
  -- The background processes write no queue.
  · refine Or.inl (hkept (fun r hr => ?_))
    rw [← (backgroundRun_frame hbackground).queues]
    exact hr
  cases haccepted.outcome with
  | @createQueue body new _ hnew hinsert =>
      rw [hinsert.2] at hq
      rcases List.mem_append.mp hq with hold | hlast
      · exact Or.inl ⟨q, hold, rfl, rfl, rfl⟩
      · rw [List.mem_singleton.mp hlast]
        exact Or.inr ⟨now, sent, userId, body, rfl, hnew⟩
  | @updateQueue queueId body old new hold _ hnew hupdate =>
      rw [hupdate.2] at hq
      rcases Table.mem_update.mp hq with ⟨r, hr, rfl⟩
      refine Or.inl ?_
      split
      -- `update_queue` sets the name and the description, and leaves the slug.
      · exact ⟨old, (Table.mem_of_filter_eq hold).1, by rw [hnew]; exact ⟨rfl, rfl, rfl⟩⟩
      · exact ⟨r, hr, rfl, rfl, rfl⟩
  | onRuns hr => exact absurd hr haccepted.notOnRuns
  | _ =>
      refine Or.inl (hkept (outcome_queues haccepted.outcome haccepted.notOnRuns ?_ ?_))
      all_goals
        intros
        exact (fun heq => nomatch heq)

/-- No event changes the slug or the group of a queue. Identifiers are never given
    twice, so a queue with the identifier of another is the same queue. -/
theorem slug_groupId_step {old : Queue} (hdb : Consistent db) (hold : old ∈ db.queues)
    (hq : q ∈ (db.step e).queues) (hid : q.id = old.id) :
    q.slug = old.slug ∧ q.groupId = old.groupId := by
  rcases mem_queues_step hq with ⟨r, hr, hrid, hslug, hgroup⟩ | ⟨now, sent, userId, body, _, rfl⟩
  · have hsame : r = old := Table.eq_of_key_eq _ hdb.keys.queues hr hold (hrid.symm.trans hid)
    rw [← hsame]
    exact ⟨hslug, hgroup⟩
  · exact absurd hid.symm (ne_of_lt (hdb.keys.queuesBelow old hold))

end Requests

/-! ## Runs -/

/-- A request of the run created the queue with this body. No queue had the
    identifier before it. -/
def CreatedBy (events : List Event) (body : CreateQueueSchema) (queueId : Id) : Prop :=
  ∃ before now sent userId after,
    events = before ++ .request now sent userId (.createQueue body) :: after ∧
      (∀ r ∈ (before.foldl Database.step Database.empty).queues, r.id ≠ queueId) ∧
      QueueRepository.created now queueId body ∈
        ((before.foldl Database.step Database.empty).step
          (.request now sent userId (.createQueue body))).queues

theorem createdBy_append {events later : List Event} {body : CreateQueueSchema} {queueId : Id}
    (h : CreatedBy events body queueId) : CreatedBy (events ++ later) body queueId := by
  rcases h with ⟨before, now, sent, userId, after, rfl, hnew, hmem⟩
  refine ⟨before, now, sent, userId, after ++ later, ?_, hnew, hmem⟩
  rw [List.append_assoc, List.cons_append]

/-- The slug and the group of a queue are those of the request that created it.
    The induction is on the run, from its end. -/
theorem exists_createdBy {events : List Event} {q : Queue}
    (hq : q ∈ (events.foldl Database.step Database.empty).queues) :
    ∃ body, CreatedBy events body q.id ∧ q.slug = body.slug ∧ q.groupId = body.groupId := by
  induction events using List.reverseRecOn generalizing q with
  | nil => exact absurd hq List.not_mem_nil
  | append_singleton events e ih =>
      have hdb := reachable_consistent (reachable_foldl events)
      rw [List.foldl_append, List.foldl_cons, List.foldl_nil] at hq
      have hstep := hq
      rcases mem_queues_step hq with ⟨old, hold, hid, hslug, hgroup⟩ |
        ⟨now, sent, userId, body, rfl, rfl⟩
      · rcases ih hold with ⟨body, hcreated, hbody⟩
        rw [← hid] at hcreated
        exact ⟨body, createdBy_append hcreated, hslug.trans hbody.1, hgroup.trans hbody.2⟩
      · refine ⟨body, ⟨events, now, sent, userId, [], rfl, fun r hr => ?_, hstep⟩, rfl, rfl⟩
        exact ne_of_lt (hdb.keys.queuesBelow r hr)

/-- Slugs tell the groups apart, and in a group the names of other words. A queue that is in
    the way of a new one was created in the group of the new one, with a name of the same
    words, and no event changes the slug of a queue or its group. -/
theorem slugs_separate_groups :
    (∀ body body' : CreateQueueSchema, body.slug = body'.slug ↔
      body.groupId = body'.groupId ∧ nameWords body.name.val = nameWords body'.name.val) ∧
    ∀ events : List Event,
      (∀ now user body db', Raises (createQueue now user body)
          (events.foldl Database.step Database.empty) .duplicatedQueueNameError db' →
        ∃ q ∈ (events.foldl Database.step Database.empty).queues, q.groupId = body.groupId ∧
          ∃ body', CreatedBy events body' q.id ∧ body'.groupId = body.groupId ∧
            nameWords body'.name.val = nameWords body.name.val) ∧
      ∀ e, ∀ old ∈ (events.foldl Database.step Database.empty).queues,
        ∀ q ∈ ((events.foldl Database.step Database.empty).step e).queues, q.id = old.id →
          q.slug = old.slug ∧ q.groupId = old.groupId := by
  refine ⟨fun _ _ => slug_eq_iff.trans (and_congr_right (fun _ => shortName_eq_iff)),
    fun events => ⟨?_, ?_⟩⟩
  · intro now user body db' hraises
    rcases exists_slug_of_duplicated hraises with ⟨q, hq, hslug⟩
    rcases exists_createdBy hq with ⟨body', hcreated, hslug', hgroup⟩
    rcases slug_eq_iff.mp (hslug'.symm.trans hslug) with ⟨hsame, hname⟩
    exact ⟨q, hq, hgroup.trans hsame, body', hcreated, hsame, shortName_eq_iff.mp hname⟩
  · intro e old hold q hq hid
    exact slug_groupId_step (reachable_consistent (reachable_foldl events)) hold hq hid

/-- A queue that has been renamed. -/
def renamedQueueEvents : List Event := [
  .login "owner",
  .request 1 .returned 1 (.createGroup sampleGroup),
  .request 2 .returned 1 (.createQueue (sampleQueue 1)),
  .request 3 .returned 1 (.updateQueue 1 { name := ⟨"renamed", by decide⟩ })]

/-- Its first name is still taken, however it is written. -/
theorem slugs_separate_groups_renamed :
    ∃ q ∈ (renamedQueueEvents.foldl Database.step Database.empty).queues, q.groupId = 1 ∧
      ∃ body', CreatedBy renamedQueueEvents body' q.id ∧ body'.groupId = 1 ∧
        nameWords body'.name.val = nameWords "- QUEUE!" := by
  let owner : User := { id := 1, username := "owner", isSuperuser := false, isActive := true }
  have hraises : Raises (createQueue 4 owner { name := ⟨"- QUEUE!", by decide⟩, groupId := 1 })
      (renamedQueueEvents.foldl Database.step Database.empty) .duplicatedQueueNameError _ :=
    Prod.ext (by decide +kernel) rfl
  exact (slugs_separate_groups.2 renamedQueueEvents).1 _ _ _ _ hraises

end SyncMaster
