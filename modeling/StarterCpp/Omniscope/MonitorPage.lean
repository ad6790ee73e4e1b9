import Mathlib.Data.List.Basic
import Mathlib.Data.List.Induction
import Mathlib.Logic.Function.Basic
import StarterCpp.PubSub.FragmentHeader

/-!
# The monitor page

The page knows the topics, keeps the last messages and shows a row for every message
since its list was cleared.  A row carries the index that its message had when it
arrived, and a click on the row selects that index.  The messages before it move up
once the page keeps as many as it can, so a row then stands for a later message.
-/

namespace StarterCpp
namespace Omniscope

open PubSub

/-- The messages that the page keeps. -/
@[irreducible] def MAX_MESSAGES : ℕ := 10000

theorem MAX_MESSAGES_pos : 0 < MAX_MESSAGES := by
  unfold MAX_MESSAGES
  decide

/-- An entry of a topic list. -/
structure TopicEntry where
  name : ByteString
  subscribed : Bool
  transport : ByteString
  deriving DecidableEq, Repr

/-- What the page knows of a topic. -/
structure TopicInfo where
  subscribed : Bool
  transport : ByteString
  count : ℕ
  deriving DecidableEq, Repr

/-- A message on the page. -/
structure Entry (Data : Type*) where
  topic : ByteString
  time : ByteString
  data : Data
  deriving DecidableEq, Repr

/-- A row of the message list: what it shows, `dataset.idx`, and whether it has the
class `selected`. -/
structure MessageRow (Data : Type*) where
  entry : Entry Data
  idx : ℕ
  selected : Bool
  deriving DecidableEq, Repr

/-- What the server sends to a page. -/
inductive Notification (Data : Type*)
  | topics (topicArr : List TopicEntry)
  | message (entry : Entry Data)
  | recordingStarted
  | recordingStopped (filename : ByteString)
  | recordingLoaded (count : ℕ)
  | playbackStarted (count : ℕ)
  | playbackProgress (current total : ℕ)
  | playbackFinished
  | playbackStopped
  deriving DecidableEq, Repr

/-- What a page sends to the server. -/
inductive Request
  | subscribe (topic : ByteString)
  | unsubscribe (topic : ByteString)
  | recordStart
  | recordStop
  | playbackStart
  | playbackStop
  deriving DecidableEq, Repr

/-- The variables of the page, with the rows and the detail that it shows. -/
structure MonitorPage (Data : Type*) where
  topics : ByteString → Option TopicInfo
  messages : List (Entry Data)
  messagesList : List (MessageRow Data)
  selectedMsgIdx : Option ℕ
  detailContent : Option (Entry Data)
  recording : Bool
  playing : Bool
  recordingLoaded : Bool
  recordingLineCount : ℕ

namespace MonitorPage

variable {Data : Type*}

/-- A page that has just been loaded. -/
def new : MonitorPage Data where
  topics := fun _ => none
  messages := []
  messagesList := []
  selectedMsgIdx := none
  detailContent := none
  recording := false
  playing := false
  recordingLoaded := false
  recordingLineCount := 0

/-- What the page makes of one entry of a topic list. -/
def noteTopic
    (topics : ByteString → Option TopicInfo)
    (entry : TopicEntry) : ByteString → Option TopicInfo :=
  Function.update topics entry.name
    (some
      { subscribed := entry.subscribed
        transport := entry.transport
        count := ((topics entry.name).map TopicInfo.count).getD 0 })

def handleTopicList
    (page : MonitorPage Data)
    (topicArr : List TopicEntry) : MonitorPage Data :=
  { page with topics := topicArr.foldl noteTopic page.topics }

/-- Append a message, and drop the first one when there are too many. -/
def keep (messages : List (Entry Data)) (entry : Entry Data) : List (Entry Data) :=
  let pushed := messages ++ [entry]
  if MAX_MESSAGES < pushed.length then pushed.tail else pushed

def appendMessageRow
    (page : MonitorPage Data)
    (entry : Entry Data)
    (idx : ℕ) : MonitorPage Data :=
  { page with messagesList := page.messagesList ++ [⟨entry, idx, false⟩] }

def handleIncomingMessage
    (page : MonitorPage Data)
    (entry : Entry Data) : MonitorPage Data :=
  let messages := keep page.messages entry
  let topics := Function.update page.topics entry.topic
    ((page.topics entry.topic).map fun info => { info with count := info.count + 1 })
  { page with messages := messages, topics := topics }.appendMessageRow entry
    (messages.length - 1)

/-- `ws.onmessage` -/
def onmessage (page : MonitorPage Data) : Notification Data → MonitorPage Data
  | .topics topicArr => page.handleTopicList topicArr
  | .message entry => page.handleIncomingMessage entry
  | .recordingStarted => { page with recording := true }
  | .recordingStopped _ => { page with recording := false }
  | .recordingLoaded count =>
      { page with recordingLoaded := true, recordingLineCount := count }
  | .playbackStarted _ => { page with playing := true }
  | .playbackProgress _ _ => page
  | .playbackFinished | .playbackStopped => { page with playing := false }

def selectMessage (page : MonitorPage Data) (idx : ℕ) : MonitorPage Data :=
  { page with
    selectedMsgIdx := some idx
    messagesList := page.messagesList.map fun row =>
      { row with selected := decide (row.idx = idx) }
    detailContent := page.messages[idx]? }

/-- A click on a row of the message list. -/
def clickRow (page : MonitorPage Data) (index : ℕ) : MonitorPage Data :=
  match page.messagesList[index]? with
  | some row => page.selectMessage row.idx
  | none => page

def clearMessages (page : MonitorPage Data) : MonitorPage Data :=
  { page with
    messages := []
    selectedMsgIdx := none
    messagesList := []
    detailContent := none
    topics := fun name => (page.topics name).map fun info => { info with count := 0 } }

/-- The request of a click on a topic, if the page knows it. -/
def toggleSubscribe (page : MonitorPage Data) (name : ByteString) : Option Request :=
  (page.topics name).map fun info =>
    if info.subscribed then .unsubscribe name else .subscribe name

/-- The state that the page shows for a topic. -/
def badge (page : MonitorPage Data) (name : ByteString) : Option Bool :=
  (page.topics name).map TopicInfo.subscribed

def toggleRecord (page : MonitorPage Data) : Request :=
  if page.recording then .recordStop else .recordStart

def togglePlayback (page : MonitorPage Data) : Request :=
  if page.playing then .playbackStop else .playbackStart

/-- What happens to a page. -/
inductive Event (Data : Type*)
  | onmessage (notification : Notification Data)
  | clickRow (index : ℕ)
  | clearMessages

def next (page : MonitorPage Data) : Event Data → MonitorPage Data
  | .onmessage notification => page.onmessage notification
  | .clickRow index => page.clickRow index
  | .clearMessages => page.clearMessages

/-- A new page after some events. -/
def after (events : List (Event Data)) : MonitorPage Data :=
  events.foldl next new

@[simp] theorem after_concat (events : List (Event Data)) (event : Event Data) :
    after (events ++ [event]) = (after events).next event :=
  List.foldl_concat _ _ _ _

/-! ## Rows and messages -/

/-- The page keeps the messages of its last rows, and a row has the index that its
message had when it arrived. -/
structure Consistent (page : MonitorPage Data) : Prop where
  messages : page.messages =
    (page.messagesList.map MessageRow.entry).drop (page.messagesList.length - MAX_MESSAGES)
  indices : page.messagesList.map MessageRow.idx =
    (List.range page.messagesList.length).map fun index => min index (MAX_MESSAGES - 1)

namespace Consistent

variable {page : MonitorPage Data}

theorem new : (new : MonitorPage Data).Consistent where
  messages := List.drop_nil.symm
  indices := rfl

theorem length_messages (consistent : page.Consistent) :
    page.messages.length = min page.messagesList.length MAX_MESSAGES := by
  rw [consistent.messages, List.length_drop, List.length_map]
  omega

/-- The messages that are kept after one more. -/
theorem keep_eq (consistent : page.Consistent) (entry : Entry Data) :
    keep page.messages entry =
      (page.messagesList.map MessageRow.entry ++ [entry]).drop
        (page.messagesList.length + 1 - MAX_MESSAGES) := by
  have length := consistent.length_messages
  have positive := MAX_MESSAGES_pos
  simp only [keep, List.length_append, List.length_singleton]
  split_ifs with full
  · have shift : page.messagesList.length + 1 - MAX_MESSAGES =
        page.messagesList.length - MAX_MESSAGES + 1 := by omega
    rw [shift, ← List.drop_drop, List.drop_one,
      List.drop_append_of_le_length (by rw [List.length_map]; omega),
      ← consistent.messages]
  · have none : page.messagesList.length + 1 - MAX_MESSAGES = 0 := by omega
    have noneBefore : page.messagesList.length - MAX_MESSAGES = 0 := by omega
    rw [none, List.drop_zero, consistent.messages, noneBefore, List.drop_zero]

theorem handleIncomingMessage
    (consistent : page.Consistent)
    (entry : Entry Data) :
    (page.handleIncomingMessage entry).Consistent where
  messages := by
    simpa [MonitorPage.handleIncomingMessage, appendMessageRow] using
      consistent.keep_eq entry
  indices := by
    have kept : (keep page.messages entry).length - 1 =
        min page.messagesList.length (MAX_MESSAGES - 1) := by
      rw [consistent.keep_eq, List.length_drop, List.length_append, List.length_map,
        List.length_singleton]
      omega
    simp [MonitorPage.handleIncomingMessage, appendMessageRow, List.range_succ,
      consistent.indices, kept]

theorem selectMessage (consistent : page.Consistent) (idx : ℕ) :
    (page.selectMessage idx).Consistent where
  messages := by
    simpa [MonitorPage.selectMessage, Function.comp_def] using consistent.messages
  indices := by
    simpa [MonitorPage.selectMessage, Function.comp_def] using consistent.indices

theorem clickRow (consistent : page.Consistent) (index : ℕ) :
    (page.clickRow index).Consistent := by
  unfold MonitorPage.clickRow
  cases page.messagesList[index]? with
  | none => exact consistent
  | some row => exact consistent.selectMessage row.idx

theorem onmessage
    (consistent : page.Consistent)
    (notification : Notification Data) :
    (page.onmessage notification).Consistent := by
  cases notification with
  | message entry => exact consistent.handleIncomingMessage entry
  | topics _ | recordingStarted | recordingStopped _ | recordingLoaded _
  | playbackStarted _ | playbackProgress _ _ | playbackFinished | playbackStopped =>
      exact ⟨consistent.messages, consistent.indices⟩

theorem next (consistent : page.Consistent) (event : Event Data) :
    (page.next event).Consistent := by
  cases event with
  | onmessage notification => exact consistent.onmessage notification
  | clickRow index => exact consistent.clickRow index
  | clearMessages => exact ⟨List.drop_nil.symm, rfl⟩

theorem after (events : List (Event Data)) : (after events).Consistent := by
  induction events using List.reverseRecOn with
  | nil => exact .new
  | append_singleton events event inductionHypothesis =>
      rw [after_concat]
      exact inductionHypothesis.next event

/-- The index that a row carries. -/
theorem idx_eq
    (consistent : page.Consistent)
    {index : ℕ}
    {row : MessageRow Data}
    (isRow : page.messagesList[index]? = some row) :
    row.idx = min index (MAX_MESSAGES - 1) := by
  obtain ⟨below, _⟩ := List.getElem?_eq_some_iff.mp isRow
  have indexed : (page.messagesList.map MessageRow.idx)[index]? = some row.idx := by
    rw [List.getElem?_map, isRow, Option.map_some]
  rw [consistent.indices, List.getElem?_map, List.getElem?_range below] at indexed
  exact (Option.some.inj indexed).symm

/-- The row whose message stands at an index. -/
theorem getElem?_messages (consistent : page.Consistent) (index : ℕ) :
    page.messages[index]? =
      (page.messagesList[page.messagesList.length - MAX_MESSAGES + index]?).map
        MessageRow.entry := by
  rw [consistent.messages, List.getElem?_drop, List.getElem?_map]

end Consistent

/-- The row whose message a click on a row shows, when there are so many rows. -/
def shownRow (rows index : ℕ) : ℕ :=
  rows - MAX_MESSAGES + min index (MAX_MESSAGES - 1)

/-- A row shows its own message as long as the page keeps every message; afterwards
only the last row does. -/
theorem shownRow_eq_self_iff
    {rows index : ℕ}
    (below : index < rows) :
    shownRow rows index = index ↔ rows ≤ MAX_MESSAGES ∨ index + 1 = rows := by
  have positive := MAX_MESSAGES_pos
  unfold shownRow
  omega

/-- A click on a row shows the message of a row that may be a later one, and marks
the rows that carry the same index. -/
theorem clickRow_shows
    (events : List (Event Data))
    (index : ℕ)
    (below : index < (after events).messagesList.length) :
    let page := after events
    let clicked := page.clickRow index
    (∃ row, page.messagesList[shownRow page.messagesList.length index]? = some row ∧
        clicked.detailContent = some row.entry) ∧
      (shownRow page.messagesList.length index = index ↔
        page.messagesList.length ≤ MAX_MESSAGES ∨
          index + 1 = page.messagesList.length) ∧
      ∀ (other : ℕ) (row : MessageRow Data),
        clicked.messagesList[other]? = some row →
          (row.selected = true ↔
            min other (MAX_MESSAGES - 1) = min index (MAX_MESSAGES - 1)) := by
  intro page clicked
  have consistent : page.Consistent := .after events
  have isRow : page.messagesList[index]? = some page.messagesList[index] :=
    List.getElem?_eq_getElem below
  have idx := consistent.idx_eq isRow
  have selected : clicked = page.selectMessage (min index (MAX_MESSAGES - 1)) := by
    rw [← idx]
    simp only [clicked, clickRow, isRow]
  refine ⟨?_, shownRow_eq_self_iff below, ?_⟩
  · have inRange : shownRow page.messagesList.length index <
        page.messagesList.length := by
      have positive := MAX_MESSAGES_pos
      change _ < page.messagesList.length at below
      unfold shownRow
      omega
    refine ⟨_, List.getElem?_eq_getElem inRange, ?_⟩
    rw [selected, selectMessage, consistent.getElem?_messages]
    change Option.map _ page.messagesList[shownRow page.messagesList.length index]? = _
    rw [List.getElem?_eq_getElem inRange, Option.map_some]
  · intro other row isOther
    rw [selected, selectMessage, List.getElem?_map, Option.map_eq_some_iff] at isOther
    obtain ⟨before, isBefore, rfl⟩ := isOther
    rw [decide_eq_true_iff, consistent.idx_eq isBefore]

theorem clickRow_shows_first :
    let page := after [.onmessage (.message (⟨[1], [], 1⟩ : Entry ℕ)),
      .onmessage (.message ⟨[2], [], 2⟩)]
    ∃ row, page.messagesList[0]? = some row ∧
      (page.clickRow 0).detailContent = some row.entry := by
  intro page
  obtain ⟨⟨row, isRow, shown⟩, own, _⟩ :=
    clickRow_shows [.onmessage (.message (⟨[1], [], 1⟩ : Entry ℕ)),
      .onmessage (.message ⟨[2], [], 2⟩)] 0 (by decide)
  have keepsAll : page.messagesList.length ≤ MAX_MESSAGES := by
    unfold MAX_MESSAGES
    decide
  rw [own.mpr (.inl keepsAll)] at isRow
  exact ⟨row, isRow, shown⟩

end MonitorPage
end Omniscope
end StarterCpp
