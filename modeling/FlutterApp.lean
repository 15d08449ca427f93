import FlutterApp.PersistantStorage.SqFliteRefinement
import FlutterApp.PersistantStorage.ConnectionSafety
import FlutterApp.PersistantStorage.FirestoreAgreement
import FlutterApp.Todo.Deletion
import FlutterApp.Todo.Freshness
import FlutterApp.Requests.RequestsExample
import FlutterApp.Login.Session
import FlutterApp.Lifecycle
import FlutterApp.AnimationExamples.StatusCascade
import FlutterApp.Library.PercentEncoding
import FlutterApp.Weather.WeatherHome
import FlutterApp.Weather.WeatherQuery
import FlutterApp.Weather.Rebuilds
import FlutterApp.PersistantStorage.FirestoreRemoval
import FlutterApp.Login.GoogleLogin
import FlutterApp.Requests.RowTaps
import FlutterApp.PersistantStorage.TextIntegrity
import FlutterApp.Library.AtomicRegister
import FlutterApp.Quiescence
import FlutterApp.PersistantStorage.Histories
import FlutterApp.PersistantStorage.ConnectionLeaks
import FlutterApp.Todo.Rendering
import FlutterApp.PersistantStorage.FirestoreRemote
import FlutterApp.Library.Instances
import FlutterApp.Weather.Answers
import FlutterApp.Weather.Navigation
import FlutterApp.PersistantStorage.FirestoreRows
import FlutterApp.Login.LastWrites
import FlutterApp.Todo.AddUsers
import FlutterApp.AnimationExamples.CascadeDepth
import FlutterApp.PersistantStorage.FirestoreLists
import FlutterApp.Todo.PastTables
import FlutterApp.Todo.Taps
