import SearchBar.Main
import SearchBar.Value.Forms
import SearchBar.Value.Same
import SearchBar.Value.Shown
import SearchBar.Proofs.CalendarWriting
import SearchBar.Proofs.CaretColumns
import SearchBar.Proofs.ConfigFaults
import SearchBar.Proofs.Descriptions
import SearchBar.Proofs.FilterTable
import SearchBar.Proofs.LeadingZeros
import SearchBar.Proofs.OpenPhrases
import SearchBar.Proofs.RecordReading
import SearchBar.Proofs.TwoForms
