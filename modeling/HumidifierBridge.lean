import HumidifierBridge.Appliance.Address
import HumidifierBridge.Appliance.Button
import HumidifierBridge.Appliance.FanSpeed
import HumidifierBridge.Appliance.Http
import HumidifierBridge.Appliance.Line
import HumidifierBridge.Appliance.OperatingState
import HumidifierBridge.Appliance.Report
import HumidifierBridge.Appliance.Script
import HumidifierBridge.Bridge.Events
import HumidifierBridge.Bridge.Handlers
import HumidifierBridge.Bridge.Icon
import HumidifierBridge.Bridge.Loop
import HumidifierBridge.Bridge.Plan
import HumidifierBridge.Bridge.Poll
import HumidifierBridge.Bridge.Requests
import HumidifierBridge.Bridge.Schedule
import HumidifierBridge.Bridge.State
import HumidifierBridge.Bridge.Work
import HumidifierBridge.Bus.Identity
import HumidifierBridge.Bus.Property
import HumidifierBridge.Bus.Transport
import HumidifierBridge.Config.File
import HumidifierBridge.Config.Load
import HumidifierBridge.Config.Settings
import HumidifierBridge.Config.Store
import HumidifierBridge.Config.Text
import HumidifierBridge.DsUid.Basic
import HumidifierBridge.DsUid.Named
import HumidifierBridge.Error
import HumidifierBridge.Hash.Md5
import HumidifierBridge.Json.Basic
import HumidifierBridge.Json.Literal
import HumidifierBridge.Json.Reader
import HumidifierBridge.KeyMap
import HumidifierBridge.Main
import HumidifierBridge.Number.Binary64
import HumidifierBridge.Profile.Basic
import HumidifierBridge.Profile.Scene
import HumidifierBridge.Profile.Sensor
import HumidifierBridge.Program.Arguments
import HumidifierBridge.Program.Log
import HumidifierBridge.Program.Operation
import HumidifierBridge.Program.Outcome
import HumidifierBridge.Program.Startup
import HumidifierBridge.Proofs.Addressing
import HumidifierBridge.Proofs.Ages
import HumidifierBridge.Proofs.Announcement
import HumidifierBridge.Proofs.Answers
import HumidifierBridge.Proofs.Background
import HumidifierBridge.Proofs.BaseUrls
import HumidifierBridge.Proofs.ByteOrder
import HumidifierBridge.Proofs.ConfigText
import HumidifierBridge.Proofs.Course
import HumidifierBridge.Proofs.DataDocuments
import HumidifierBridge.Proofs.Device
import HumidifierBridge.Proofs.DsUidForms
import HumidifierBridge.Proofs.DsUids
import HumidifierBridge.Proofs.FailedReads
import HumidifierBridge.Proofs.IntegerLiterals
import HumidifierBridge.Proofs.Interleaving
import HumidifierBridge.Proofs.JsonDocuments
import HumidifierBridge.Proofs.JsonNumbers
import HumidifierBridge.Proofs.JsonTokens
import HumidifierBridge.Proofs.KeyMaps
import HumidifierBridge.Proofs.Loadable
import HumidifierBridge.Proofs.MissedReads
import HumidifierBridge.Proofs.OperatingFields
import HumidifierBridge.Proofs.Passes
import HumidifierBridge.Proofs.PlainValues
import HumidifierBridge.Proofs.PollTiming
import HumidifierBridge.Proofs.PropertyRequests
import HumidifierBridge.Proofs.Push
import HumidifierBridge.Proofs.PushedReadings
import HumidifierBridge.Proofs.QuotedTexts
import HumidifierBridge.Proofs.Readings
import HumidifierBridge.Proofs.Reads
import HumidifierBridge.Proofs.RefusedCalls
import HumidifierBridge.Proofs.RefusedValues
import HumidifierBridge.Proofs.RepeatedReport
import HumidifierBridge.Proofs.Replacement
import HumidifierBridge.Proofs.ReportEffect
import HumidifierBridge.Proofs.Rounding
import HumidifierBridge.Proofs.SaturatingFields
import HumidifierBridge.Proofs.SavedConfig
import HumidifierBridge.Proofs.SavedFiles
import HumidifierBridge.Proofs.SceneCalls
import HumidifierBridge.Proofs.SceneTables
import HumidifierBridge.Proofs.SceneTranscript
import HumidifierBridge.Proofs.Sections
import HumidifierBridge.Proofs.SensorProperties
import HumidifierBridge.Proofs.SensorSlots
import HumidifierBridge.Proofs.Sheets
import HumidifierBridge.Proofs.Slots
import HumidifierBridge.Proofs.StateParts
import HumidifierBridge.Proofs.StoredConfig
import HumidifierBridge.Proofs.Tables
import HumidifierBridge.Proofs.Transcript
import HumidifierBridge.Proofs.ValidConfig
import HumidifierBridge.Proofs.WrittenNumbers
import HumidifierBridge.Proofs.ZoneRequests
import HumidifierBridge.Storage.FileTree
import HumidifierBridge.Text.Ascii
import HumidifierBridge.Text.Blank
import HumidifierBridge.Text.Decimal
import HumidifierBridge.Text.Utf8
import HumidifierBridge.Time
import HumidifierBridge.Toml.Basic
import HumidifierBridge.Toml.Quoted
import HumidifierBridge.Toml.Reader
import HumidifierBridge.Toml.Table
import HumidifierBridge.Toml.Unquoted
import HumidifierBridge.Toml.Writer
import HumidifierBridge.ValueError
