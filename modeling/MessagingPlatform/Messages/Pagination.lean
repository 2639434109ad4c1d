import MessagingPlatform.Lib.Dates
import MessagingPlatform.Lib.Paging
import MessagingPlatform.Lib.Table

/-! The listing of messages: `MessagesService.findAll`, and what a caller sees who follows its cursors. -/
namespace MessagingPlatform.Messages

/-- A column value in microseconds, of those that a `Date` can hold. -/
structure Timestamp where
  micros : Int
  held : (micros / 1000).natAbs ≤ maxDate

/-- The `Date` that is read from the column drops the microseconds. -/
def Timestamp.date (timestamp : Timestamp) : Int := timestamp.micros / 1000

structure Message where
  id : Nat
  title : String
  content : String
  sender : String
  recipient : Option String
  createdAt : Timestamp

abbrev MessageTable := Table Message Message.id

/-- `ORDER BY "createdAt" DESC`. -/
abbrev Descending := Paging.Arranger (fun message : Message => message.createdAt.micros)

structure FindAllOptions where
  limit : Option Nat := none
  cursor : Option String := none

/-- `createdBefore` is the date of `LessThan(new Date(cursor))`, which may be invalid. -/
structure FindOptions where
  createdBefore : Option (Option Int)
  take : Nat

def findAll (otherwise : String → Option Int) (opts : FindAllOptions) : FindOptions :=
  let limit := min (opts.limit.getD 50) 200
  match opts.cursor with
  | some cursor =>
      if cursor = "" then { createdBefore := none, take := limit }
      else { createdBefore := some (parseDate otherwise cursor), take := limit }
  | none => { createdBefore := none, take := limit }

/-- The database refuses an invalid date. -/
def find (arranger : Descending) (messages : MessageTable) (options : FindOptions) : Option (List Message) :=
  match options.createdBefore with
  | none => some ((arranger.arrange messages.rows).take options.take)
  | some none => none
  | some (some date) => some ((arranger.arrange
      (messages.rows.filter (fun message => message.createdAt.micros < date * 1000))).take options.take)

/-- What a caller collects who sends the date of each page's last message as the next cursor. -/
def visit (otherwise : String → Option Int) (messages : MessageTable) (limit : Nat) :
    Nat → (Nat → Descending) → Option String → Option (List Message)
  | 0, _, _ => none
  | fuel + 1, arrangers, cursor => do
      let listed ← find (arrangers 0) messages (findAll otherwise { limit := some limit, cursor })
      match listed.getLast? with
      | none => some []
      | some last =>
          let later ← visit otherwise messages limit fuel (fun turn => arrangers (turn + 1))
            (some (toIsoString last.createdAt.date))
          some (listed ++ later)

def milliseconds : Paging.Coarsening Int where
  mark micros := micros / 1000 * 1000
  mono := by
    intro earlier later ordered
    have whole : earlier / 1000 ≤ later / 1000 := Int.ediv_le_ediv (by decide) ordered
    dsimp only
    omega
  le micros := by omega
  idem micros := by omega

theorem find_page {otherwise : String → Option Int} {messages : MessageTable} {limit : Nat}
    (most : limit ≤ 200) (arranger : Descending) (newest : Option Message) :
    find arranger messages (findAll otherwise
      { limit := some limit, cursor := newest.map (fun message => toIsoString message.createdAt.date) }) =
    some (Paging.page arranger limit messages.rows
      (newest.map (fun message => milliseconds.mark message.createdAt.micros))) := by
  have bounded : min limit 200 = limit := Nat.min_eq_left most
  cases newest with
  | none =>
    have all : messages.rows.filter (Paging.below (fun message => message.createdAt.micros) none) =
        messages.rows := List.filter_eq_self.mpr (fun _ _ => rfl)
    simp [find,findAll,Paging.page,bounded,all]
  | some message =>
    have read := parseDate_toIsoString otherwise message.createdAt.held
    have spelt := toIsoString_ne_empty message.createdAt.date
    simp only [findAll,Option.map_some,if_neg spelt,Option.getD_some,bounded]
    rw [Timestamp.date,read]
    rfl

theorem visit_walk {otherwise : String → Option Int} {messages : MessageTable} {limit : Nat} (most : limit ≤ 200)
    (fuel : Nat) : ∀ (arrangers : Nat → Descending) (newest : Option Message),
    visit otherwise messages limit fuel arrangers
        (newest.map (fun message => toIsoString message.createdAt.date)) =
      Paging.walk milliseconds limit messages.rows fuel arrangers
        (newest.map (fun message => milliseconds.mark message.createdAt.micros)) := by
  induction fuel with
  | zero => exact fun _ _ => rfl
  | succ fuel ih =>
    intro arrangers newest
    rw [visit,Paging.walk,find_page most]
    simp only [Option.bind_eq_bind,Option.bind_some]
    cases (Paging.page (arrangers 0) limit messages.rows
      (newest.map (fun message => milliseconds.mark message.createdAt.micros))).getLast? with
    | none => rfl
    | some last =>
      have further := ih (fun turn => arrangers (turn + 1)) (some last)
      simp only [Option.map_some] at further
      simp only [further,Option.map_eq_bind]
      rfl

def createdAts (messages : MessageTable) : List Int :=
  Paging.ranks (fun message => message.createdAt.micros) messages.rows

/-- No page ends between two messages of one millisecond. -/
def MillisecondsKeptWhole (limit : Nat) (messages : MessageTable) : Prop :=
  ∀ k, 0 < k → ∀ newer ∈ (createdAts messages)[k * limit - 1]?, ∀ older ∈ (createdAts messages)[k * limit]?,
    older / 1000 < newer / 1000

theorem unsplit_iff {limit : Nat} {messages : MessageTable} :
    Paging.Unsplit milliseconds limit (createdAts messages) ↔ MillisecondsKeptWhole limit messages := by
  have marks : ∀ older newer : Int, milliseconds.mark older < milliseconds.mark newer ↔ older / 1000 < newer / 1000 := by
    intro older newer
    simp only [milliseconds]
    omega
  simp only [Paging.Unsplit,marks]
  rfl

/-- The caller collects these messages, however many queries more are allowed than there are messages. -/
def Visits (otherwise : String → Option Int) (messages : MessageTable) (limit : Nat)
    (arrangers : Nat → Descending) (visited : List Message) : Prop :=
  ∀ fuel, messages.rows.length < fuel → visit otherwise messages limit fuel arrangers none = some visited

/-- The walk ends, in descending order and with no message twice; none is left out exactly when no
page ends within a millisecond. -/
theorem visits (otherwise : String → Option Int) (messages : MessageTable) {limit : Nat} (least : 1 ≤ limit)
    (most : limit ≤ 200) (arrangers : Nat → Descending) :
    ∃ visited, Visits otherwise messages limit arrangers visited ∧ visited.Subperm messages.rows ∧
      visited.Pairwise (fun newer older => older.createdAt.micros ≤ newer.createdAt.micros) ∧
      (visited.Perm messages.rows ↔ MillisecondsKeptWhole limit messages) := by
  obtain ⟨visited,walked,once,descends,complete⟩ := Paging.walk_perm_iff milliseconds least messages.rows arrangers
  refine ⟨visited,?_,once,descends,complete.trans unsplit_iff⟩
  intro fuel enough
  exact (visit_walk most fuel arrangers none).trans (walked fuel enough)

theorem Visits.unique {otherwise : String → Option Int} {messages : MessageTable} {limit : Nat}
    {arrangers : Nat → Descending} {visited others : List Message}
    (first : Visits otherwise messages limit arrangers visited)
    (second : Visits otherwise messages limit arrangers others) : visited = others :=
  Option.some.inj ((first _ (Nat.lt_succ_self _)).symm.trans (second _ (Nat.lt_succ_self _)))

/-- Following the cursors yields every message once, newest first, exactly when no page ends between two
messages of one millisecond. -/
theorem every_message_once_iff (otherwise : String → Option Int) (messages : MessageTable) (limit : Nat)
    (least : 1 ≤ limit) (most : limit ≤ 200) (arrangers : Nat → Descending) :
    (∃ visited, Visits otherwise messages limit arrangers visited ∧ visited.Perm messages.rows ∧
      visited.Pairwise (fun newer older => older.createdAt.micros ≤ newer.createdAt.micros)) ↔
    MillisecondsKeptWhole limit messages := by
  obtain ⟨visited,visits,-,descends,complete⟩ := visits otherwise messages least most arrangers
  constructor
  · rintro ⟨others,reached,whole,-⟩
    rw [← visits.unique reached] at whole
    exact complete.mp whole
  · intro kept
    exact ⟨visited,visits,complete.mpr kept,descends⟩

def sampleMessage (id : Nat) (micros : Int) (held : (micros / 1000).natAbs ≤ maxDate) : Message :=
  { id, title := "a", content := "b", sender := "s", recipient := none, createdAt := ⟨micros,held⟩ }

def sampleDescending : Descending where
  arrange rows := rows.insertionSort (fun newer older => older.createdAt.micros ≤ newer.createdAt.micros)
  perm := List.perm_insertionSort _
  descends := by
    intro rows
    have : IsTrans Message (fun newer older => older.createdAt.micros ≤ newer.createdAt.micros) :=
      ⟨fun _ _ _ first second => second.trans first⟩
    have : Std.Total (fun newer older : Message => older.createdAt.micros ≤ newer.createdAt.micros) :=
      ⟨fun newer older => le_total older.createdAt.micros newer.createdAt.micros⟩
    exact List.pairwise_insertionSort _ rows

def apartMessages : MessageTable where
  rows := [sampleMessage 1 1700000000000000 (by decide),sampleMessage 2 1700000000001000 (by decide)]
  distinct := by decide

def togetherMessages : MessageTable where
  rows := [sampleMessage 1 1700000000000000 (by decide),sampleMessage 2 1700000000000000 (by decide)]
  distinct := by decide

theorem apartMessages_kept : MillisecondsKeptWhole 1 apartMessages := by
  intro k positive newer atNewer older atOlder
  have short : (createdAts apartMessages).length = 2 := by decide
  obtain ⟨inside,-⟩ := List.getElem?_eq_some_iff.mp atOlder
  obtain rfl : k = 1 := by omega
  obtain rfl := Option.some.inj ((by decide : (createdAts apartMessages)[1 * 1 - 1]? = some 1700000000001000).symm.trans atNewer)
  obtain rfl := Option.some.inj ((by decide : (createdAts apartMessages)[1 * 1]? = some 1700000000000000).symm.trans atOlder)
  decide

theorem apartMessages_once : ∃ visited, Visits (fun _ => none) apartMessages 1 (fun _ => sampleDescending) visited ∧
    visited.Perm apartMessages.rows ∧
    visited.Pairwise (fun newer older => older.createdAt.micros ≤ newer.createdAt.micros) :=
  (every_message_once_iff _ apartMessages 1 (by decide) (by decide) _).mpr apartMessages_kept

theorem togetherMessages_split : ¬ MillisecondsKeptWhole 1 togetherMessages := by
  intro kept
  have newest : (createdAts togetherMessages)[1 * 1 - 1]? = some 1700000000000000 := by decide
  have oldest : (createdAts togetherMessages)[1 * 1]? = some 1700000000000000 := by decide
  exact absurd (kept 1 Nat.one_pos _ newest _ oldest) (by decide)

theorem togetherMessages_missed : ¬ ∃ visited,
    Visits (fun _ => none) togetherMessages 1 (fun _ => sampleDescending) visited ∧
    visited.Perm togetherMessages.rows := by
  rintro ⟨others,reached,whole⟩
  obtain ⟨visited,visits,-,-,complete⟩ :=
    visits (fun _ => none) togetherMessages (le_refl 1) (by decide) (fun _ => sampleDescending)
  rw [← visits.unique reached] at whole
  exact togetherMessages_split (complete.mp whole)

end MessagingPlatform.Messages
