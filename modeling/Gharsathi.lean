import Gharsathi.DartDouble
import Gharsathi.DartMath
import Gharsathi.DartValues
import Gharsathi.FirestoreCollection
import Gharsathi.Runs
import Gharsathi.Models
import Gharsathi.RoomDetails
import Gharsathi.Booking
import Gharsathi.LandlordView
import Gharsathi.BookingOnce
import Gharsathi.DartStrings
import Gharsathi.DartSort
import Gharsathi.ChatService
import Gharsathi.Haversine
import Gharsathi.PreferenceServices
import Gharsathi.RecommendationSys
import Gharsathi.SimilarityScore
import Gharsathi.ScoreRange
import Gharsathi.Recommendations
import Gharsathi.Dominance
import Gharsathi.PreferenceScreen
import Gharsathi.PostingScreen
import Gharsathi.PostedLocation
import Gharsathi.PropertyFiltering
import Gharsathi.FilteredRooms
import Gharsathi.SavedRooms
import Gharsathi.SavedIdentity
import Gharsathi.Bookmark
import Gharsathi.RoomLists
import Gharsathi.Authentication
import Gharsathi.HalfMadeAccounts
import Gharsathi.DartText
import Gharsathi.AccountForms
import Gharsathi.Passwords
import Gharsathi.ContactOwner
import Gharsathi.PreferenceSaving
import Gharsathi.LocationChange
import Gharsathi.WriteReports
import Gharsathi.AtomicPosting
import Gharsathi.FilterNavigation
import Gharsathi.RegistrationPolicy
import Gharsathi.ReplyOrder
import Gharsathi.UnitSphere
import Gharsathi.GreatCircle
import Gharsathi.TypedText
import Gharsathi.Composer
import Gharsathi.ProfileEditing
import Gharsathi.SharedStore
import Gharsathi.UserDirectory
import Gharsathi.ChatPartners
import Gharsathi.BookerContact
import Gharsathi.RecordHistory
import Gharsathi.OwnRoomPage
import Gharsathi.RoomLifecycle
import Gharsathi.RangeQuery
import Gharsathi.AsyncBuilder
import Gharsathi.HomeScreen
import Gharsathi.LocationScreen
import Gharsathi.RecommendationFeed
import Gharsathi.PreferenceEditing
import Gharsathi.TenantPages
import Gharsathi.TenantDevices
