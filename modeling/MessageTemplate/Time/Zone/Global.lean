/-! The recorded histories of the zones of no one region. -/
namespace MessageTemplate.Zone

/-- The zones of no one region: universal time, its fixed offsets, and the zones named by their rules by name, with their histories. -/
def global : List (String × String) := [
  ("CET",
    "3600,7200d,7200d,3600|-s0e080B7ves0Aa4yw0C7x6o0Dasw00C7x6o0Db8qdc0C1cm000D7k800C9q000D9d1c0C" ++
    "9d1c0D9d1c0C8l9c0Dggp1c0C902o0D9q000C9d1c0D9d1c0C9d1c0D9q000C902o0D9d1c0C9d1c0D9d1c0C9d1c0D9" ++
    "d1c0C9d1c0D9d1c0C9q000D9d1c0C9d1c0D9d1c0C9d1c0D9d1c0C9d1c0D9d1c0C9d1c0D9d1c0C9d1c0D9d1c0C9q0" ++
    "00D9d1c0C9d1c0D9d1c0C9d1c0D9d1c0C9d1c0D9d1c0C9d1c0D9d1c0C9d1c0D9q000Casw00D7x6o0Casw00D7x6o0" ++
    "Casw00D7x6o0Cb5uo0D7k800Cb5uo0D7k800Cb5uo0D7x6o0Casw00D7x6o0Casw00D7x6o0Cb5uo0D7k800Cb5uo0D7" ++
    "k800Cb5uo0D7k800Cb5uo0D7x6o0Casw00D7x6o0Casw00D7x6o0Cb5uo0D7k800Cb5uo0D7k800Cb5uo0D7x6o0Casw" ++
    "00D7x6o0Casw00D7x6o0Casw00D7x6o0Cb5uo0D7k800Cb5uo0D7k800Cb5uo0D7x6o0Casw00D7x6o0Casw00D7x6o0" ++
    "Cb5uo0D7k800Cb5uo0D7k800Cb5uo0D7x6o0Casw00D7x6o0Casw00D7x6o0Casw00D7x6o0Cb5uo0D7k800Cb5uo0D7" ++
    "k800Cb5uo0D7x6o0Casw00D7x6o0Casw00D7x6o0Cb5uo0D7k800Cb5uo0D7k800Cb5uo0D7k800Cb5uo0D7x6o0Casw" ++
    "00D7x6o0Casw00D|CET-1CEST,M3.5.0,M10.5.0/3"),
  ("CST6CDT",
    "-21600,-18000d,-18000d,-18000d,-21600|-r0esg0Bast80A7x9g0Bast80Abmtus0C1tz8c0D2dsw0Ab9gdg0B9" ++
    "cyk0A9d440B9cyk0A9d440B9cyk0A9d440B9cyk0A9d440B9px80A9d440B9cyk0A9d440B9cyk0A3lpg0Bf4d80A64g" ++
    "40Bclmk0A9d440B9px80A905g0B9px80A9d440B9cyk0A9d440B9cyk0A9d440B9cyk0A9d440B9cyk0A9d440B9px80" ++
    "A905g0B9px80A9d440B9cyk0A9d440B9cyk0A9d440B9cyk0A8a840Bafuk0A8a840Bast80A7x9g0Bast80A7x9g0Ba" ++
    "st80A8a840Bafuk0A8a840Bafuk0A8a840Bast80A7x9g0Bast80A7x9g0Bast80A8a840Bafuk0A8a840Bafuk0A8a8" ++
    "40Bafuk0A8a840Bast80A7x9g0Bast80A7x9g0Bast80A8a840Bafuk0A8a840Bafuk0A8a840Bast80A7x9g0Bast80" ++
    "A7x9g0Bast80A6udg0Bc8nw0A6hes0Bc8nw0A6hes0Bc8nw0A6udg0Bc8nw0A6hes0Bc8nw0A6hes0Bc8nw0A6hes0Bc" ++
    "8nw0A6hes0Bc8nw0A6hes0Bc8nw0A6udg0Bc8nw0A6hes0Bc8nw0A6hes0Bc8nw0A6hes0Bc8nw0A6hes0Bc8nw0A6ud" ++
    "g0Bc8nw0A6hes0Bc8nw0A6hes0Bc8nw0A6hes0Bc8nw0A6hes0Bc8nw0A6hes0Bc8nw0A6udg0Bc8nw0A6hes0Bc8nw0" ++
    "A6hes0Bc8nw0A6hes0Bc8nw0A6hes0Bc8nw0A6udg0Bc8nw0A6hes0Bc8nw0A6hes0Bc8nw0A6hes0Bc8nw0A6hes0Bc" ++
    "8nw0A6hes0Bc8nw0A|CST6CDT,M3.2.0,M11.1.0"),
  ("EET",
    "7200,10800d,10800d,7200|3s9ms0B902o0A9q000B9d1c0A9d1c0B9d1c0A9q000B902o0A9d1c0B9d1c0A9d1c0B9" ++
    "d1c0A9d1c0B9d1c0A9d1c0B9q000A9d1c0B9d1c0A9d1c0B9d1c0A9d1c0B9d1c0A9d1c0B9d1c0A9d1c0B9d1c0A9d1" ++
    "c0B9q000A9d1c0B9d1c0A9d1c0B9d1c0A9d1c0B9d1c0A9d1c0B9d1c0A9d1c0B9d1c0A9q000Basw00A7x6o0Basw00" ++
    "A7x6o0Basw00A7x6o0Bb5uo0A7k800Bb5uo0A7k800Bb5uo0A7x6o0Basw00A7x6o0Basw00A7x6o0Bb5uo0A7k800Bb" ++
    "5uo0A7k800Bb5uo0A7k800Bb5uo0A7x6o0Basw00A7x6o0Basw00A7x6o0Bb5uo0A7k800Bb5uo0A7k800Bb5uo0A7x6" ++
    "o0Basw00A7x6o0Basw00A7x6o0Basw00A7x6o0Bb5uo0A7k800Bb5uo0A7k800Bb5uo0A7x6o0Basw00A7x6o0Basw00" ++
    "A7x6o0Bb5uo0A7k800Bb5uo0A7k800Bb5uo0A7x6o0Basw00A7x6o0Basw00A7x6o0Basw00A7x6o0Bb5uo0A7k800Bb" ++
    "5uo0A7k800Bb5uo0A7x6o0Basw00A7x6o0Basw00A7x6o0Bb5uo0A7k800Bb5uo0A7k800Bb5uo0A7k800Bb5uo0A7x6" ++
    "o0Basw00A7x6o0Basw00A|EET-2EEST,M3.5.0/3,M10.5.0/4"),
  ("EST",
    "-18000||EST5"),
  ("EST5EDT",
    "-18000,-14400d,-14400d,-14400d,-18000|-r0ev80Bast80A7x9g0Bast80Abmtus0C1tzb40D2dq40Ab9gdg0B9" ++
    "cyk0A9d440B9cyk0A9d440B9cyk0A9d440B9cyk0A9d440B9px80A9d440B9cyk0A9d440B9cyk0A3lpg0Bf4d80A64g" ++
    "40Bclmk0A9d440B9px80A905g0B9px80A9d440B9cyk0A9d440B9cyk0A9d440B9cyk0A9d440B9cyk0A9d440B9px80" ++
    "A905g0B9px80A9d440B9cyk0A9d440B9cyk0A9d440B9cyk0A8a840Bafuk0A8a840Bast80A7x9g0Bast80A7x9g0Ba" ++
    "st80A8a840Bafuk0A8a840Bafuk0A8a840Bast80A7x9g0Bast80A7x9g0Bast80A8a840Bafuk0A8a840Bafuk0A8a8" ++
    "40Bafuk0A8a840Bast80A7x9g0Bast80A7x9g0Bast80A8a840Bafuk0A8a840Bafuk0A8a840Bast80A7x9g0Bast80" ++
    "A7x9g0Bast80A6udg0Bc8nw0A6hes0Bc8nw0A6hes0Bc8nw0A6udg0Bc8nw0A6hes0Bc8nw0A6hes0Bc8nw0A6hes0Bc" ++
    "8nw0A6hes0Bc8nw0A6hes0Bc8nw0A6udg0Bc8nw0A6hes0Bc8nw0A6hes0Bc8nw0A6hes0Bc8nw0A6hes0Bc8nw0A6ud" ++
    "g0Bc8nw0A6hes0Bc8nw0A6hes0Bc8nw0A6hes0Bc8nw0A6hes0Bc8nw0A6hes0Bc8nw0A6udg0Bc8nw0A6hes0Bc8nw0" ++
    "A6hes0Bc8nw0A6hes0Bc8nw0A6hes0Bc8nw0A6udg0Bc8nw0A6hes0Bc8nw0A6hes0Bc8nw0A6hes0Bc8nw0A6hes0Bc" ++
    "8nw0A6hes0Bc8nw0A|EST5EDT,M3.2.0,M11.1.0"),
  ("Etc/GMT",
    "0||GMT0"),
  ("Etc/GMT+1",
    "-3600||<-01>1"),
  ("Etc/GMT+10",
    "-36000||<-10>10"),
  ("Etc/GMT+11",
    "-39600||<-11>11"),
  ("Etc/GMT+12",
    "-43200||<-12>12"),
  ("Etc/GMT+2",
    "-7200||<-02>2"),
  ("Etc/GMT+3",
    "-10800||<-03>3"),
  ("Etc/GMT+4",
    "-14400||<-04>4"),
  ("Etc/GMT+5",
    "-18000||<-05>5"),
  ("Etc/GMT+6",
    "-21600||<-06>6"),
  ("Etc/GMT+7",
    "-25200||<-07>7"),
  ("Etc/GMT+8",
    "-28800||<-08>8"),
  ("Etc/GMT+9",
    "-32400||<-09>9"),
  ("Etc/GMT-1",
    "3600||<+01>-1"),
  ("Etc/GMT-10",
    "36000||<+10>-10"),
  ("Etc/GMT-11",
    "39600||<+11>-11"),
  ("Etc/GMT-12",
    "43200||<+12>-12"),
  ("Etc/GMT-13",
    "46800||<+13>-13"),
  ("Etc/GMT-14",
    "50400||<+14>-14"),
  ("Etc/GMT-2",
    "7200||<+02>-2"),
  ("Etc/GMT-3",
    "10800||<+03>-3"),
  ("Etc/GMT-4",
    "14400||<+04>-4"),
  ("Etc/GMT-5",
    "18000||<+05>-5"),
  ("Etc/GMT-6",
    "21600||<+06>-6"),
  ("Etc/GMT-7",
    "25200||<+07>-7"),
  ("Etc/GMT-8",
    "28800||<+08>-8"),
  ("Etc/GMT-9",
    "32400||<+09>-9"),
  ("Etc/UTC",
    "0||UTC0"),
  ("Factory",
    "0||<-00>0"),
  ("HST",
    "-36000||HST10"),
  ("MET",
    "3600,7200d,7200d,3600|-s0e080B7ves0Aa4yw0C7x6o0Dasw00C7x6o0Db8qdc0C1cm000D7k800C9q000D9d1c0C" ++
    "9d1c0D9d1c0C8l9c0Dggp1c0C902o0D9q000C9d1c0D9d1c0C9d1c0D9q000C902o0D9d1c0C9d1c0D9d1c0C9d1c0D9" ++
    "d1c0C9d1c0D9d1c0C9q000D9d1c0C9d1c0D9d1c0C9d1c0D9d1c0C9d1c0D9d1c0C9d1c0D9d1c0C9d1c0D9d1c0C9q0" ++
    "00D9d1c0C9d1c0D9d1c0C9d1c0D9d1c0C9d1c0D9d1c0C9d1c0D9d1c0C9d1c0D9q000Casw00D7x6o0Casw00D7x6o0" ++
    "Casw00D7x6o0Cb5uo0D7k800Cb5uo0D7k800Cb5uo0D7x6o0Casw00D7x6o0Casw00D7x6o0Cb5uo0D7k800Cb5uo0D7" ++
    "k800Cb5uo0D7k800Cb5uo0D7x6o0Casw00D7x6o0Casw00D7x6o0Cb5uo0D7k800Cb5uo0D7k800Cb5uo0D7x6o0Casw" ++
    "00D7x6o0Casw00D7x6o0Casw00D7x6o0Cb5uo0D7k800Cb5uo0D7k800Cb5uo0D7x6o0Casw00D7x6o0Casw00D7x6o0" ++
    "Cb5uo0D7k800Cb5uo0D7k800Cb5uo0D7x6o0Casw00D7x6o0Casw00D7x6o0Casw00D7x6o0Cb5uo0D7k800Cb5uo0D7" ++
    "k800Cb5uo0D7x6o0Casw00D7x6o0Casw00D7x6o0Cb5uo0D7k800Cb5uo0D7k800Cb5uo0D7k800Cb5uo0D7x6o0Casw" ++
    "00D7x6o0Casw00D|MET-1MEST,M3.5.0,M10.5.0/3"),
  ("MST",
    "-25200||MST7"),
  ("MST7MDT",
    "-25200,-21600d,-21600d,-21600d,-25200|-r0epo0Bast80A7x9g0Bast80Abmtus0C1tz5k0D2dvo0Ab9gdg0B9" ++
    "cyk0A9d440B9cyk0A9d440B9cyk0A9d440B9cyk0A9d440B9px80A9d440B9cyk0A9d440B9cyk0A3lpg0Bf4d80A64g" ++
    "40Bclmk0A9d440B9px80A905g0B9px80A9d440B9cyk0A9d440B9cyk0A9d440B9cyk0A9d440B9cyk0A9d440B9px80" ++
    "A905g0B9px80A9d440B9cyk0A9d440B9cyk0A9d440B9cyk0A8a840Bafuk0A8a840Bast80A7x9g0Bast80A7x9g0Ba" ++
    "st80A8a840Bafuk0A8a840Bafuk0A8a840Bast80A7x9g0Bast80A7x9g0Bast80A8a840Bafuk0A8a840Bafuk0A8a8" ++
    "40Bafuk0A8a840Bast80A7x9g0Bast80A7x9g0Bast80A8a840Bafuk0A8a840Bafuk0A8a840Bast80A7x9g0Bast80" ++
    "A7x9g0Bast80A6udg0Bc8nw0A6hes0Bc8nw0A6hes0Bc8nw0A6udg0Bc8nw0A6hes0Bc8nw0A6hes0Bc8nw0A6hes0Bc" ++
    "8nw0A6hes0Bc8nw0A6hes0Bc8nw0A6udg0Bc8nw0A6hes0Bc8nw0A6hes0Bc8nw0A6hes0Bc8nw0A6hes0Bc8nw0A6ud" ++
    "g0Bc8nw0A6hes0Bc8nw0A6hes0Bc8nw0A6hes0Bc8nw0A6hes0Bc8nw0A6hes0Bc8nw0A6udg0Bc8nw0A6hes0Bc8nw0" ++
    "A6hes0Bc8nw0A6hes0Bc8nw0A6hes0Bc8nw0A6udg0Bc8nw0A6hes0Bc8nw0A6hes0Bc8nw0A6hes0Bc8nw0A6hes0Bc" ++
    "8nw0A6hes0Bc8nw0A|MST7MDT,M3.2.0,M11.1.0"),
  ("PST8PDT",
    "-28800,-25200d,-25200d,-25200d,-28800|-r0emw0Bast80A7x9g0Bast80Abmtus0C1tz2s0D2dyg0Ab9gdg0B9" ++
    "cyk0A9d440B9cyk0A9d440B9cyk0A9d440B9cyk0A9d440B9px80A9d440B9cyk0A9d440B9cyk0A3lpg0Bf4d80A64g" ++
    "40Bclmk0A9d440B9px80A905g0B9px80A9d440B9cyk0A9d440B9cyk0A9d440B9cyk0A9d440B9cyk0A9d440B9px80" ++
    "A905g0B9px80A9d440B9cyk0A9d440B9cyk0A9d440B9cyk0A8a840Bafuk0A8a840Bast80A7x9g0Bast80A7x9g0Ba" ++
    "st80A8a840Bafuk0A8a840Bafuk0A8a840Bast80A7x9g0Bast80A7x9g0Bast80A8a840Bafuk0A8a840Bafuk0A8a8" ++
    "40Bafuk0A8a840Bast80A7x9g0Bast80A7x9g0Bast80A8a840Bafuk0A8a840Bafuk0A8a840Bast80A7x9g0Bast80" ++
    "A7x9g0Bast80A6udg0Bc8nw0A6hes0Bc8nw0A6hes0Bc8nw0A6udg0Bc8nw0A6hes0Bc8nw0A6hes0Bc8nw0A6hes0Bc" ++
    "8nw0A6hes0Bc8nw0A6hes0Bc8nw0A6udg0Bc8nw0A6hes0Bc8nw0A6hes0Bc8nw0A6hes0Bc8nw0A6hes0Bc8nw0A6ud" ++
    "g0Bc8nw0A6hes0Bc8nw0A6hes0Bc8nw0A6hes0Bc8nw0A6hes0Bc8nw0A6hes0Bc8nw0A6udg0Bc8nw0A6hes0Bc8nw0" ++
    "A6hes0Bc8nw0A6hes0Bc8nw0A6hes0Bc8nw0A6udg0Bc8nw0A6hes0Bc8nw0A6hes0Bc8nw0A6hes0Bc8nw0A6hes0Bc" ++
    "8nw0A6hes0Bc8nw0A|PST8PDT,M3.2.0,M11.1.0"),
  ("WET",
    "0,3600d,3600d,0|3s9ms0B902o0A9q000B9d1c0A9d1c0B9d1c0A9q000B902o0A9d1c0B9d1c0A9d1c0B9d1c0A9d1" ++
    "c0B9d1c0A9d1c0B9q000A9d1c0B9d1c0A9d1c0B9d1c0A9d1c0B9d1c0A9d1c0B9d1c0A9d1c0B9d1c0A9d1c0B9q000" ++
    "A9d1c0B9d1c0A9d1c0B9d1c0A9d1c0B9d1c0A9d1c0B9d1c0A9d1c0B9d1c0A9q000Basw00A7x6o0Basw00A7x6o0Ba" ++
    "sw00A7x6o0Bb5uo0A7k800Bb5uo0A7k800Bb5uo0A7x6o0Basw00A7x6o0Basw00A7x6o0Bb5uo0A7k800Bb5uo0A7k8" ++
    "00Bb5uo0A7k800Bb5uo0A7x6o0Basw00A7x6o0Basw00A7x6o0Bb5uo0A7k800Bb5uo0A7k800Bb5uo0A7x6o0Basw00" ++
    "A7x6o0Basw00A7x6o0Basw00A7x6o0Bb5uo0A7k800Bb5uo0A7k800Bb5uo0A7x6o0Basw00A7x6o0Basw00A7x6o0Bb" ++
    "5uo0A7k800Bb5uo0A7k800Bb5uo0A7x6o0Basw00A7x6o0Basw00A7x6o0Basw00A7x6o0Bb5uo0A7k800Bb5uo0A7k8" ++
    "00Bb5uo0A7x6o0Basw00A7x6o0Basw00A7x6o0Bb5uo0A7k800Bb5uo0A7k800Bb5uo0A7k800Bb5uo0A7x6o0Basw00" ++
    "A7x6o0Basw00A|WET0WEST,M3.5.0/1,M10.5.0")]

end MessageTemplate.Zone
