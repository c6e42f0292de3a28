/-! The recorded histories of the zones of the Americas. -/
namespace MessageTemplate.Zone

def america : List (String × String) := [
  ("America/Adak",
    "44002,-42398,-39600,-36000d,-36000d,-39600,-36000d,-36000,-32400d,-36000|-1hc7qjzBh4z1xpCln7" ++
    "0qaD1tyug0E2e6s0Cb7yik0F12y080G9cyk0F9d440G9cyk0F9d440G9px80F9d440G9cyk0F9d440G9cyk0F3lpg0Gf" ++
    "4d80F64g40Gclmk0F9d440G9px80F905g0G9px80F9d440G9cyk0F9d440G9cyk0F9d440G9cyk0F9d440G9cyk0F9d4" ++
    "40G9px80F905g0G9px80H1l940J7rs80I9cyk0J9d440I9cyk0J9d440I9cyk0J8a840Iafuk0J8a840Iast80J7x9g0" ++
    "Iast80J7x9g0Iast80J8a840Iafuk0J8a840Iafuk0J8a840Iast80J7x9g0Iast80J7x9g0Iast80J8a840Iafuk0J8" ++
    "a840Iafuk0J8a840Iafuk0J8a840Iast80J7x9g0Iast80J7x9g0Iast80J8a840Iafuk0J8a840Iafuk0J8a840Iast" ++
    "80J7x9g0Iast80J7x9g0Iast80J6udg0Ic8nw0J6hes0Ic8nw0J6hes0Ic8nw0J6udg0Ic8nw0J6hes0Ic8nw0J6hes0" ++
    "Ic8nw0J6hes0Ic8nw0J6hes0Ic8nw0J6hes0Ic8nw0J6udg0Ic8nw0J6hes0Ic8nw0J6hes0Ic8nw0J6hes0Ic8nw0J6" ++
    "hes0Ic8nw0J6udg0Ic8nw0J6hes0Ic8nw0J6hes0Ic8nw0J6hes0Ic8nw0J6hes0Ic8nw0J6hes0Ic8nw0J6udg0Ic8n" ++
    "w0J6hes0Ic8nw0J6hes0Ic8nw0J6hes0Ic8nw0J6hes0Ic8nw0J6udg0Ic8nw0J6hes0Ic8nw0J6hes0Ic8nw0J6hes0" ++
    "Ic8nw0J6hes0Ic8nw0J6hes0Ic8nw0J|HST10HDT,M3.2.0,M11.1.0"),
  ("America/Anchorage",
    "50424,-35976,-36000,-32400d,-32400d,-36000,-32400d,-32400,-28800d,-32400|-1hc7qjzBh4ywzbCln7" ++
    "2woD1tyx80E2e400Cb7yik0F12y080G9cyk0F9d440G9cyk0F9d440G9px80F9d440G9cyk0F9d440G9cyk0F3lpg0Gf" ++
    "4d80F64g40Gclmk0F9d440G9px80F905g0G9px80F9d440G9cyk0F9d440G9cyk0F9d440G9cyk0F9d440G9cyk0F9d4" ++
    "40G9px80F905g0G9px80H1l940J7rs80I9cyk0J9d440I9cyk0J9d440I9cyk0J8a840Iafuk0J8a840Iast80J7x9g0" ++
    "Iast80J7x9g0Iast80J8a840Iafuk0J8a840Iafuk0J8a840Iast80J7x9g0Iast80J7x9g0Iast80J8a840Iafuk0J8" ++
    "a840Iafuk0J8a840Iafuk0J8a840Iast80J7x9g0Iast80J7x9g0Iast80J8a840Iafuk0J8a840Iafuk0J8a840Iast" ++
    "80J7x9g0Iast80J7x9g0Iast80J6udg0Ic8nw0J6hes0Ic8nw0J6hes0Ic8nw0J6udg0Ic8nw0J6hes0Ic8nw0J6hes0" ++
    "Ic8nw0J6hes0Ic8nw0J6hes0Ic8nw0J6hes0Ic8nw0J6udg0Ic8nw0J6hes0Ic8nw0J6hes0Ic8nw0J6hes0Ic8nw0J6" ++
    "hes0Ic8nw0J6udg0Ic8nw0J6hes0Ic8nw0J6hes0Ic8nw0J6hes0Ic8nw0J6hes0Ic8nw0J6hes0Ic8nw0J6udg0Ic8n" ++
    "w0J6hes0Ic8nw0J6hes0Ic8nw0J6hes0Ic8nw0J6hes0Ic8nw0J6udg0Ic8nw0J6hes0Ic8nw0J6hes0Ic8nw0J6hes0" ++
    "Ic8nw0J6hes0Ic8nw0J6hes0Ic8nw0J|AKST9AKDT,M3.2.0,M11.1.0"),
  ("America/Anguilla",
    "-15136,-14400|-u6m6zkB|AST4"),
  ("America/Antigua",
    "-14832,-18000,-14400|-u6m780Bk9mqg0C|AST4"),
  ("America/Araguaina",
    "-11568,-7200d,-10800|-t85j2oC99k8moB9a9c0C9io40B99980C8p65g0B6zuo0Cbs2o0B67zw0Ccjxg0B69uk0Cc" ++
    "jxg0B4ml80C5mf440B49mk0Chaas0B316k0Ccls40B4ml80Ccls40B66580Ccls40B67zw0C981s40B6u7w0Cbiw40B5" ++
    "rbw0Cd0lg0B5ed80Ccyqs0B5ed80Cdbpg0B64ak0C2yl440B64ak0Cc8tg0B6u7w0Cbxpg0B7iak0Cbiw40B6u7w0Cbi" ++
    "w40B7k580Cbiw40B6u7w0Cc8tg0B6h980Cdbpg0B5ed80C51udg0B64ak0Cd07nfjC|<-03>3"),
  ("America/Argentina/Buenos_Aires",
    "-14028,-15408,-14400,-10800d,-7200d,-10800|-138aaicBdb2bqcC5iv8k0D67zw0Ca4w40D73h80Ccls40D66" ++
    "580Ccls40D66580Ccls40D66580Ccls40D67zw0Ccls40D66580Ccls40D66580Ccls40D66580Ccls40D67zw0C6a04" ++
    "0Dhy7w0C6a040Dxovw0C3uys0D18nbw0Cb0dg0D8ve2k0C3uys0D3yik0Cbqas0D71mk0Cbqas0D71mk0Cbqas0D8ovw" ++
    "0C9d440D9px80C9d440D9cyk0C9d440F28t6k0E51ek0F7m2qs0E4tzw0Fbiw40E776k0Fbvus0E6u7w0Fbvus0E6u7w" ++
    "0Fbvus0E776k0F3fidg0D7thc0F430lc0E3yik0Fb5xg0E7k580Ff2123jF|<-03>3"),
  ("America/Argentina/Catamarca",
    "-15788,-15408,-14400,-10800d,-7200d,-10800|-138a95gBdb2adgC5iv8k0D67zw0Ca4w40D73h80Ccls40D66" ++
    "580Ccls40D66580Ccls40D66580Ccls40D67zw0Ccls40D66580Ccls40D66580Ccls40D66580Ccls40D67zw0C6a04" ++
    "0Dhy7w0C6a040Dxovw0C3uys0D18nbw0Cb0dg0D8ve2k0C3uys0D3yik0Cbqas0D71mk0Cbqas0D71mk0Cbqas0D8ovw" ++
    "0C9d440D9px80C9d440D9cyk0C9d440F28t6k0E51ek0F7m2qs0E4tzw0Fbiw40E776k0Fbvus0E6u7w0Cbvxk0E6u54" ++
    "0Fbvus0E776k0F3fidg0D7thc0F27s800Cz9g0F1u93w0E3yik0Ffkr4rjF|<-03>3"),
  ("America/Argentina/Cordoba",
    "-15408,-15408,-14400,-10800d,-7200d,-10800|-138a9g0Bdb2ao0C5iv8k0D67zw0Ca4w40D73h80Ccls40D66" ++
    "580Ccls40D66580Ccls40D66580Ccls40D67zw0Ccls40D66580Ccls40D66580Ccls40D66580Ccls40D67zw0C6a04" ++
    "0Dhy7w0C6a040Dxovw0C3uys0D18nbw0Cb0dg0D8ve2k0C3uys0D3yik0Cbqas0D71mk0Cbqas0D71mk0Cbqas0D8ovw" ++
    "0C9d440D9px80C9d440D9cyk0C9d440F28t6k0E51ek0F7m2qs0E4tzw0Fbiw40E776k0Fbvus0E6u7w0Cbvxk0E6u54" ++
    "0Fbvus0E776k0F3fidg0D7thc0F430lc0E3yik0Fb5xg0E7k580Ff2123jF|<-03>3"),
  ("America/Argentina/Jujuy",
    "-15672,-15408,-14400,-10800d,-7200d,-10800|-138a98oBdb2agoC5iv8k0D67zw0Ca4w40D73h80Ccls40D66" ++
    "580Ccls40D66580Ccls40D66580Ccls40D67zw0Ccls40D66580Ccls40D66580Ccls40D66580Ccls40D67zw0C6a04" ++
    "0Dhy7w0C6a040Dxovw0C3uys0D18nbw0Cb0dg0D8ve2k0C3uys0D3yik0Cbqas0D71mk0Cbqas0D71mk0Cbqas0D8ovw" ++
    "0C9d440D9px80C9d440D9cyk0C9d440F28t6k0E51ek0F7m2qs0E4tzw0Fbiw40E776k0Cc8w80D776k0Cag040E7k2g" ++
    "0Fbvus0E776k0F3fidg0D7thc0F430lc0E3yik0Ffkr4rjF|<-03>3"),
  ("America/Argentina/La_Rioja",
    "-16044,-15408,-14400,-10800d,-7200d,-10800|-138a8ycBdb2a6cC5iv8k0D67zw0Ca4w40D73h80Ccls40D66" ++
    "580Ccls40D66580Ccls40D66580Ccls40D67zw0Ccls40D66580Ccls40D66580Ccls40D66580Ccls40D67zw0C6a04" ++
    "0Dhy7w0C6a040Dxovw0C3uys0D18nbw0Cb0dg0D8ve2k0C3uys0D3yik0Cbqas0D71mk0Cbqas0D71mk0Cbqas0D8ovw" ++
    "0C9d440D9px80C9d440D9cyk0C9d440F28t6k0E51ek0F7m2qs0E4tzw0Fbiw40E776k0Fbvus0E6qik0C3g880F8jbw" ++
    "0E6u7w0Fbvus0E776k0F3fidg0D7thc0F27s800Cz9g0F1u93w0E3yik0Ffkr4rjF|<-03>3"),
  ("America/Argentina/Mendoza",
    "-16516,-15408,-14400,-10800d,-7200d,-10800|-138a8l8Bdb29t8C5iv8k0D67zw0Ca4w40D73h80Ccls40D66" ++
    "580Ccls40D66580Ccls40D66580Ccls40D67zw0Ccls40D66580Ccls40D66580Ccls40D66580Ccls40D67zw0C6a04" ++
    "0Dhy7w0C6a040Dxovw0C3uys0D18nbw0Cb0dg0D8ve2k0C3uys0D3yik0Cbqas0D71mk0Cbqas0D71mk0Cbqas0D8ovw" ++
    "0C9d440D9px80C9d440D9cyk0C9d440F28t6k0E51ek0F7m2qs0E4tzw0Fbiw40E776k0Cbktk0D71mk0Cbqas0D73h8" ++
    "0Cbvus0E773s0F3fidg0D7thc0F27bk00C6hes0F1p7mk0E3yik0Ffkr4rjF|<-03>3"),
  ("America/Argentina/Rio_Gallegos",
    "-16612,-15408,-14400,-10800d,-7200d,-10800|-138a8ikBdb29qkC5iv8k0D67zw0Ca4w40D73h80Ccls40D66" ++
    "580Ccls40D66580Ccls40D66580Ccls40D67zw0Ccls40D66580Ccls40D66580Ccls40D66580Ccls40D67zw0C6a04" ++
    "0Dhy7w0C6a040Dxovw0C3uys0D18nbw0Cb0dg0D8ve2k0C3uys0D3yik0Cbqas0D71mk0Cbqas0D71mk0Cbqas0D8ovw" ++
    "0C9d440D9px80C9d440D9cyk0C9d440F28t6k0E51ek0F7m2qs0E4tzw0Fbiw40E776k0Fbvus0E6u7w0Fbvus0E6u7w" ++
    "0Fbvus0E776k0F3fidg0D7thc0F27s800Cz9g0F1u93w0E3yik0Ffkr4rjF|<-03>3"),
  ("America/Argentina/Salta",
    "-15700,-15408,-14400,-10800d,-7200d,-10800|-138a97wBdb2afwC5iv8k0D67zw0Ca4w40D73h80Ccls40D66" ++
    "580Ccls40D66580Ccls40D66580Ccls40D67zw0Ccls40D66580Ccls40D66580Ccls40D66580Ccls40D67zw0C6a04" ++
    "0Dhy7w0C6a040Dxovw0C3uys0D18nbw0Cb0dg0D8ve2k0C3uys0D3yik0Cbqas0D71mk0Cbqas0D71mk0Cbqas0D8ovw" ++
    "0C9d440D9px80C9d440D9cyk0C9d440F28t6k0E51ek0F7m2qs0E4tzw0Fbiw40E776k0Fbvus0E6u7w0Cbvxk0E6u54" ++
    "0Fbvus0E776k0F3fidg0D7thc0F430lc0E3yik0Ffkr4rjF|<-03>3"),
  ("America/Argentina/San_Juan",
    "-16444,-15408,-14400,-10800d,-7200d,-10800|-138a8n8Bdb29v8C5iv8k0D67zw0Ca4w40D73h80Ccls40D66" ++
    "580Ccls40D66580Ccls40D66580Ccls40D67zw0Ccls40D66580Ccls40D66580Ccls40D66580Ccls40D67zw0C6a04" ++
    "0Dhy7w0C6a040Dxovw0C3uys0D18nbw0Cb0dg0D8ve2k0C3uys0D3yik0Cbqas0D71mk0Cbqas0D71mk0Cbqas0D8ovw" ++
    "0C9d440D9px80C9d440D9cyk0C9d440F28t6k0E51ek0F7m2qs0E4tzw0Fbiw40E776k0Fbvus0E6qik0C3g880F8jbw" ++
    "0E6u7w0Fbvus0E776k0F3fidg0D7thc0F27qdc0C2txg0F1sgak0E3yik0Ffkr4rjF|<-03>3"),
  ("America/Argentina/San_Luis",
    "-15924,-15408,-14400,-10800d,-7200d,-10800,-10800d|-138a91oBdb2a9oC5iv8k0D67zw0Ca4w40D73h80C" ++
    "cls40D66580Ccls40D66580Ccls40D66580Ccls40D67zw0Ccls40D66580Ccls40D66580Ccls40D66580Ccls40D67" ++
    "zw0C6a040Dhy7w0C6a040Dxovw0C3uys0D18nbw0Cb0dg0D8ve2k0C3uys0D3yik0Cbqas0D71mk0Cbqas0D71mk0Cbq" ++
    "as0D8ovw0C9d440D9px80C9d440D9cyk0C9d440F28t6k0E51ek0F7m2qs0E4tzw0Fbiw40E7pp80Cb2aw0D71mk0C4q" ++
    "g40F4conw0D7thc0F27qdc0C2txg0F1sgak0E14nw0D2gys0Cb5xg0D7k580Cb5xg0Fer80jjF|<-03>3"),
  ("America/Argentina/Tucuman",
    "-15652,-15408,-14400,-10800d,-7200d,-10800|-138a998Bdb2ah8C5iv8k0D67zw0Ca4w40D73h80Ccls40D66" ++
    "580Ccls40D66580Ccls40D66580Ccls40D67zw0Ccls40D66580Ccls40D66580Ccls40D66580Ccls40D67zw0C6a04" ++
    "0Dhy7w0C6a040Dxovw0C3uys0D18nbw0Cb0dg0D8ve2k0C3uys0D3yik0Cbqas0D71mk0Cbqas0D71mk0Cbqas0D8ovw" ++
    "0C9d440D9px80C9d440D9cyk0C9d440F28t6k0E51ek0F7m2qs0E4tzw0Fbiw40E776k0Fbvus0E6u7w0Cbvxk0E6u54" ++
    "0Fbvus0E776k0F3fidg0D7thc0F27s800Cmas0F1um2k0E3yik0Fb5xg0E7k580Ff2123jF|<-03>3"),
  ("America/Argentina/Ushuaia",
    "-16392,-15408,-14400,-10800d,-7200d,-10800|-138a8ooBdb29woC5iv8k0D67zw0Ca4w40D73h80Ccls40D66" ++
    "580Ccls40D66580Ccls40D66580Ccls40D67zw0Ccls40D66580Ccls40D66580Ccls40D66580Ccls40D67zw0C6a04" ++
    "0Dhy7w0C6a040Dxovw0C3uys0D18nbw0Cb0dg0D8ve2k0C3uys0D3yik0Cbqas0D71mk0Cbqas0D71mk0Cbqas0D8ovw" ++
    "0C9d440D9px80C9d440D9cyk0C9d440F28t6k0E51ek0F7m2qs0E4tzw0Fbiw40E776k0Fbvus0E6u7w0Fbvus0E6u7w" ++
    "0Fbvus0E776k0F3fidg0D7thc0F27oio0C12ys0F1u93w0E3yik0Ffkr4rjF|<-03>3"),
  ("America/Aruba",
    "-16824,-16200,-14400|-u7lccoBrlo7ioC|AST4"),
  ("America/Asuncion",
    "-13840,-13840,-14400,-10800,-10800d|-15r0ynkBlsruo0CldwofkDs4vw0Cs6w40E7tek0Cb0dg0E7rjw0Cb0d" ++
    "g0E7rjw0Cb0dg0E9cyk0C9eys0E9et80C9eys0E9cyk0C9eys0E9cyk0C9eys0E9cyk0C9eys0E9et80C9eys0E9cyk0" ++
    "C9eys0E9cyk0C9eys0E9cyk0C9eys0E9et80C9eys0E9cyk0Cahus0E8a2k0C9eys0E9cyk0C9o840E7k580Cb7s40E9" ++
    "3p80C9gtg0E7nuk0Cb42s0E7lzw0Cb5xg0E7tek0Cb9ms0E776k0Cbiw40E7k580Cb5xg0E7x3w0Casys0E7x3w0Casy" ++
    "s0E7x3w0Cb5xg0E9cyk0C7kas0Eb5rw0C7x9g0East80Ca31g0E7k580Cb5xg0E7k580Cb5xg0E7k580Cbiw40E776k0" ++
    "Cbiw40E776k0Cbiw40E8zzw0C905g0E9px80C905g0E9px80C9d440E8n180Ca31g0E8n180Ca31g0E8n180Ca31g0E8" ++
    "zzw0C9q2s0E8zzw0C9q2s0E8zzw0Ca31g0E8n180Ca31g0E8n180Ca31g0E8zzw0C9q2s0E8zzw0C9q2s0E8zzw0C9q2" ++
    "s0E8zzw0Ca31g0Egl80D6x6dzjD|<-03>3"),
  ("America/Atikokan",
    "-21988,-18000d,-21600,-18000d,-18000d,-18000|-1353b18Cc5efx8Ba2vw0Cbfxjw0Bpmdk0D1tz8c0E2dsw0" ++
    "F|EST5"),
  ("America/Bahia",
    "-9244,-7200d,-10800|-t85kv8C99kaf8B9a9c0C9io40B99980C8p65g0B6zuo0Cbs2o0B67zw0Ccjxg0B69uk0Ccj" ++
    "xg0B4ml80C5mf440B49mk0Chaas0B316k0Ccls40B4ml80Ccls40B66580Ccls40B67zw0C981s40B6u7w0Cbiw40B5r" ++
    "bw0Cd0lg0B5ed80Ccyqs0B5ed80Cdbpg0B64ak0Ccyqs0B64ak0Ccls40B5rbw0Cdbpg0B51ek0Cdbpg0B6h980Cc8tg" ++
    "0B6h980Cc8tg0B64ak0Cc8tg0B6u7w0Cbxpg0B7iak0Cbiw40B6u7w0Cbiw40B7k580Cbiw40B6u7w0Cc8tg0B6h980C" ++
    "dbpg0B5ed80C4irc40B6u7w0CdikrfjC|<-03>3"),
  ("America/Bahia_Banderas",
    "-25260,-25200,-21600,-21600d,-25200,-18000d,-21600|-p1u4k0B2u5s00C1si580E8jhg0D7x3w0E9eys0C5" ++
    "91h80Es5qoc0Dafuk0E8a840Dafuk0E8a840Dafuk0E8a840Dast80E7x9g0Dast80E9q2s0D7k580E9q2s0Dafuk0E8" ++
    "a840Dafuk0E8a840Dast80E7x9g0Dast80E7x9g0Dast80E7x9g0Dast80E8a840Dafuk0E8a840Dafuk0E8a840Fasq" ++
    "g0C7x9g0Fast80C7x9g0Fast80C8a840Fafuk0C8a840Fafuk0C8a840Fafuk0C8a840Fast80C7x9g0Fast80C7x9g0" ++
    "Fast80C8a840Fafuk0C8a840Fafuk0C8a840Fast80C7x9g0Fast80C|CST6"),
  ("America/Barbados",
    "-14309,-10800d,-14400,-14400,-12600d,-10800d|-ug8iajDfzq06jB6w840Ccjrw0B6hes0Cb7mk0E7ves0Ch3" ++
    "dpc0F5rbw0Da31g0F8n180Da31g0F8n180Dag040F84ik0D|AST4"),
  ("America/Belem",
    "-11636,-7200d,-10800|-t85j0sC99k8ksB9a9c0C9io40B99980C8p65g0B6zuo0Cbs2o0B67zw0Ccjxg0B69uk0Cc" ++
    "jxg0B4ml80C5mf440B49mk0Chaas0B316k0Ccls40B4ml80Ccls40B66580Ccls40B67zw0C981s40B6u7w0Cbiw40B5" ++
    "rbw0Cd0lg0B5ed80Cq2ha3jC|<-03>3"),
  ("America/Belize",
    "-21168,-19800d,-21600,-18000d,-18000d,-18000d|-u52ic0C3edkc0B6ham0Cc8s20B6u9a0Cbvte0B6u9a0Cb" ++
    "vte0B6u9a0Cc8s20B6ham0Cc8s20B6ham0Cc8s20B6u9a0Cbvte0B6u9a0Cbvte0B6u9a0Cbvte0B6u9a0Cc8s20B6ha" ++
    "m0Cc8s20B6ham0Cc8s20B6u9a0Cbvte0B6u9a0Cbvte0B6u9a0Cc8s20B6ham0Cc8s20B6ham0Cc8s20B6ham0Cc8s20" ++
    "B6u9a0Cbvte0B6u9a0Cbvte0B6u9a0Cc8s20B6ham0Cc8s20B6ham0Cc8s20B6u9a0C6uc20D1mtz80E6c8o0Cxulg0B" ++
    "6u9a0Cbvte0B6u9a0Cbvte0B6u9a0Cc8s20B6ham0Cc8s20B6ham0Cc8s20B6u9a0Cbvte0B6u9a0Cbvte0B6u9a0Cbv" ++
    "te0B6u9a0Cc8s20B6ham0Cc8s20B6ham0Cc8s20B6u9a0Cbvte0B6u9a0Cbvte0B6u9a0Cc8s20B6ham0Cc8s20B6ham" ++
    "0Cc8s20B6ham0Cc8s20B6u9a0Cbvte0B6u9a0Cbvte0B6u9a0Cc8s20B6ham0C319de0F3e580C4mcys0F2vmk0C|CST" ++
    "6"),
  ("America/Blanc-Sablon",
    "-13708,-10800d,-14400,-10800d,-10800d|-18vs838Chw37f8Ba2vw0Cc5jxg0D1tzdw0E2dnc0C|AST4"),
  ("America/Boa_Vista",
    "-14560,-10800d,-14400|-t85grkC99k93kB9a9c0C9io40B99980C8p65g0B6zuo0Cbs2o0B67zw0Ccjxg0B69uk0C" ++
    "cjxg0B4ml80C5mf440B49mk0Chaas0B316k0Ccls40B4ml80Ccls40B66580Ccls40B67zw0C981s40B6u7w0Cbiw40B" ++
    "5rbw0Cd0lg0B5ed80C62xk40B7k580Cbiw40Bcvw0Cjg3pzjC|<-04>4"),
  ("America/Bogota",
    "-17776,-17776,-14400d,-18000|-18s2sy8Bg0p400D14f1hi8Ceefw0DnghsjjD|<-05>5"),
  ("America/Boise",
    "-27889,-25200d,-28800,-28800,-21600d,-21600d,-25200,-21600d|-18y0gg0Dhxltk0Bast80C7x9g0Bast8" ++
    "0C1um840G9s7jw0E1tz5k0F2dvo0Gb9gdg0H9cyk0G9d440H9cyk0G9d440H9cyk0G9d440H9cyk0G9d440H9px80G9d" ++
    "440H9cyk0G9d440H9cyk0G51k40Hdoik0G64g40Hclmk0G9d440H9px80G905g0H9px80G9d440H9cyk0G9d440H9cyk" ++
    "0G9d440H9cyk0G9d440H9cyk0G9d440H9px80G905g0H9px80G9d440H9cyk0G9d440H9cyk0G9d440H9cyk0G8a840H" ++
    "afuk0G8a840Hast80G7x9g0Hast80G7x9g0Hast80G8a840Hafuk0G8a840Hafuk0G8a840Hast80G7x9g0Hast80G7x" ++
    "9g0Hast80G8a840Hafuk0G8a840Hafuk0G8a840Hafuk0G8a840Hast80G7x9g0Hast80G7x9g0Hast80G8a840Hafuk" ++
    "0G8a840Hafuk0G8a840Hast80G7x9g0Hast80G7x9g0Hast80G6udg0Hc8nw0G6hes0Hc8nw0G6hes0Hc8nw0G6udg0H" ++
    "c8nw0G6hes0Hc8nw0G6hes0Hc8nw0G6hes0Hc8nw0G6hes0Hc8nw0G6hes0Hc8nw0G6udg0Hc8nw0G6hes0Hc8nw0G6h" ++
    "es0Hc8nw0G6hes0Hc8nw0G6hes0Hc8nw0G6udg0Hc8nw0G6hes0Hc8nw0G6hes0Hc8nw0G6hes0Hc8nw0G6hes0Hc8nw" ++
    "0G6hes0Hc8nw0G6udg0Hc8nw0G6hes0Hc8nw0G6hes0Hc8nw0G6hes0Hc8nw0G6hes0Hc8nw0G6udg0Hc8nw0G6hes0H" ++
    "c8nw0G6hes0Hc8nw0G6hes0Hc8nw0G6hes0Hc8nw0G6hes0Hc8nw0G|MST7MDT,M3.2.0,M11.1.0"),
  ("America/Cambridge_Bay",
    "0,-21600d,-21600d,-25200,-21600d,-18000d,-21600,-18000,-21600d,-25200|-q3gdc0Dbjeec0B1tz5k0C" ++
    "2dvo0Ddvfpg0E9cyk0D9d440E9cyk0D9d440E9cyk0D9d440E9cyk0D9d440E9px80D905g0E9px80D9d440E9cyk0D9" ++
    "d440E9cyk0D9d440E9cyk0D9d440E9cyk0D9d440E9px80D905g0E9px80D9d440E9cyk0D9d440E9cyk0D9d440E9cy" ++
    "k0D8a840Eafuk0D8a840East80D7x9g0East80D7x9g0East80D8a840Eafuk0D8a840Eafuk0D8a840East80D7x9g0" ++
    "East80D7x9g0East80D8a840Eafuk0D8a840Eafuk0D8a840Eafuk0D8a840East80G7x6o0Fast80Hct40G7kj40Eas" ++
    "t80D8a840Eafuk0D8a840Eafuk0D8a840East80D7x9g0East80D7x9g0East80D6udg0Ec8nw0D6hes0Ec8nw0D6hes" ++
    "0Ec8nw0D6udg0Ec8nw0D6hes0Ec8nw0D6hes0Ec8nw0D6hes0Ec8nw0D6hes0Ec8nw0D6hes0Ec8nw0D6udg0Ec8nw0D" ++
    "6hes0Ec8nw0D6hes0Ec8nw0D6hes0Ec8nw0D6hes0Ec8nw0D6udg0Ec8nw0D6hes0Ec8nw0D6hes0Ec8nw0D6hes0Ec8" ++
    "nw0D6hes0Ec8nw0D6hes0Ec8nw0D6udg0Ec8nw0D6hes0Ec8nw0D6hes0Ec8nw0D6hes0Ec8nw0D6hes0Ec8nw0D6udg" ++
    "0Ec8nw0D6hes0Ec8nw0D6hes0Ec8nw0D6hes0Ec8nw0D6hes0Ec8nw0D6hes0Ec8nw0D|MST7MDT,M3.2.0,M11.1.0"),
  ("America/Campo_Grande",
    "-13108,-10800d,-14400|-t85hvwC99ka7wB9a9c0C9io40B99980C8p65g0B6zuo0Cbs2o0B67zw0Ccjxg0B69uk0C" ++
    "cjxg0B4ml80C5mf440B49mk0Chaas0B316k0Ccls40B4ml80Ccls40B66580Ccls40B67zw0C981s40B6u7w0Cbiw40B" ++
    "5rbw0Cd0lg0B5ed80Ccyqs0B5ed80Cdbpg0B64ak0Ccyqs0B64ak0Ccls40B5rbw0Cdbpg0B51ek0Cdbpg0B6h980Cc8" ++
    "tg0B6h980Cc8tg0B64ak0Cc8tg0B6u7w0Cbxpg0B7iak0Cbiw40B6u7w0Cbiw40B7k580Cbiw40B6u7w0Cc8tg0B6h98" ++
    "0Cdbpg0B5ed80Ccls40B64ak0Cdfes0B5nmk0Cc8tg0B6h980Cdbpg0B5rbw0Cbvus0B6h980Ccls40B64ak0Ccls40B" ++
    "6h980Cc8tg0B6h980Cc8tg0B6u7w0Cc8tg0B64ak0Ccls40B64ak0Ccls40B6h980Cc8tg0B6h980Cc8tg0B6h980Cc8" ++
    "tg0B6h980Cdbpg0B5ed80C9vi5zjC|<-04>4"),
  ("America/Cancun",
    "-20824,-21600,-18000,-18000d,-21600,-14400d,-18000d,-18000|-p1u7c0Bvb0dk0Cj8d00E6x2wc0Dafuk0" ++
    "E8a840Dafuk0C8a5c0F64ak0D4bms0E8a840Dast80E7x9g0Dast80E9q2s0D7k580E9q2s0Dafuk0E8a840Dafuk0E8" ++
    "a840Dast80E7x9g0Dast80E7x9g0Dast80E7x9g0Dast80E8a840Dafuk0E8a840Dafuk0E8a840Dast80E7x9g0Dast" ++
    "80E7x9g0Dast80E8a840Dafuk0E8a840Dafuk0E51k40C|EST5"),
  ("America/Caracas",
    "-16064,-16060,-16200,-14400|-15r0wxsBbjfjzwCrlo83wDmeoxm0C4dps00Dbc2g7jD|<-04>4"),
  ("America/Cayenne",
    "-12560,-14400,-10800|-uj7yb4Btcw6r4C10ovsjjC|<-03>3"),
  ("America/Cayman",
    "-19532,-18430,-18000|-15r0u9gBbiv5teC|EST5"),
  ("America/Chicago",
    "-21036,-18000d,-21600,-21600,-18000,-18000d,-18000d,-21600|-18y0m00Dhxltk0Bast80C7x9g0Bast80" ++
    "Cbvus0B776k0C7kas0Bb5rw0C9d440B7k580Cb5xg0B7x3w0Casys0B7x3w0Casys0B7x3w0Casys0B7x3w0Casys0B7" ++
    "x3w0Cb5xg0B7x3w0Casys0B7x3w0Casys0B7x3w0Casys0B7x3w0Casys0B7x3w0Cb5xg0B7k580Cb5xg0B7x3w0Casy" ++
    "s0B7x3w0C7x9g0Edbjw0C8a840B7x3w0Casys0B7x3w0Cb5xg0B7k580Cb5xg0B7x3w0Casys0B7x3w0C6w840F1tz8c" ++
    "0G2dsw0Casys0B7x3w0Casys0B7x3w0Casys0B7x3w0Casys0B7x3w0Cb5xg0B7k580Cb5xg0B7x3w0Casys0B7x3w0C" ++
    "asys0B7x3w0Casys0B7x3w0Casys0B9px80C9d440B9cyk0C9d440B9cyk0C9d440B9cyk0C9d440B9cyk0C9d440B9p" ++
    "x80C9d440B9cyk0C9d440B9cyk0C9d440B9cyk0C9d440B9cyk0C9d440B9px80C905g0B9px80C9d440B9cyk0C9d44" ++
    "0B9cyk0C9d440B9cyk0C9d440B9cyk0C9d440B9px80C9d440B9cyk0C9d440B9cyk0C3lpg0Bf4d80C64g40Bclmk0C" ++
    "9d440B9px80C905g0B9px80C9d440B9cyk0C9d440B9cyk0C9d440B9cyk0C9d440B9cyk0C9d440B9px80C905g0B9p" ++
    "x80C9d440B9cyk0C9d440B9cyk0C9d440B9cyk0C8a840Bafuk0C8a840Bast80C7x9g0Bast80C7x9g0Bast80C8a84" ++
    "0Bafuk0C8a840Bafuk0C8a840Bast80C7x9g0Bast80C7x9g0Bast80C8a840Bafuk0C8a840Bafuk0C8a840Bafuk0C" ++
    "8a840Bast80C7x9g0Bast80C7x9g0Bast80C8a840Bafuk0C8a840Bafuk0C8a840Bast80C7x9g0Bast80C7x9g0Bas" ++
    "t80C6udg0Bc8nw0C6hes0Bc8nw0C6hes0Bc8nw0C6udg0Bc8nw0C6hes0Bc8nw0C6hes0Bc8nw0C6hes0Bc8nw0C6hes" ++
    "0Bc8nw0C6hes0Bc8nw0C6udg0Bc8nw0C6hes0Bc8nw0C6hes0Bc8nw0C6hes0Bc8nw0C6hes0Bc8nw0C6udg0Bc8nw0C" ++
    "6hes0Bc8nw0C6hes0Bc8nw0C6hes0Bc8nw0C6hes0Bc8nw0C6hes0Bc8nw0C6udg0Bc8nw0C6hes0Bc8nw0C6hes0Bc8" ++
    "nw0C6hes0Bc8nw0C6hes0Bc8nw0C6udg0Bc8nw0C6hes0Bc8nw0C6hes0Bc8nw0C6hes0Bc8nw0C6hes0Bc8nw0C6hes" ++
    "0Bc8nw0C|CST6CDT,M3.2.0,M11.1.0"),
  ("America/Chihuahua",
    "-25460,-25200,-21600,-21600d,-25200,-18000d,-21600d,-21600|-p1u4k0B2u5s00C1si580E8jhg0D7x3w0" ++
    "E9eys0Cxes2s0Fafuk0C8a840Fafuk0C8aaw0Dafuk0E8a840Dast80E7x9g0Dast80E9q2s0D7k580E9q2s0Dafuk0E" ++
    "8a840Dafuk0E8a840Dast80E7x9g0Dast80E7x9g0Dast80E7x9g0Dast80E8a840Dafuk0E8a840Dafuk0E8a840Das" ++
    "t80E7x9g0Dast80E7x9g0Dast80E8a840Dafuk0E8a840Dafuk0E8a840Dafuk0E8a840Dast80E7x9g0Dast80E7x9g" ++
    "0Dast80E8a840Dafuk0E8a840Dafuk0E8a840Dast80E7x9g0Dast80C|CST6"),
  ("America/Ciudad_Juarez",
    "-25556,-25200,-21600,-21600d,-25200,-18000d,-21600d|-p1u4k0B2u5s00C1si580E8jhg0D7x3w0E9eys0C" ++
    "xes2s0Fafuk0C8a840Fafuk0C8aaw0Dafuk0E8a840Dast80E7x9g0Dast80E9q2s0D7k580E9q2s0Dafuk0E8a840Da" ++
    "fuk0E8a840Dast80E7x9g0Dast80E7x9g0Dast80E7x9g0Dast80E8a840Dafuk0E8a840Dafuk0E77c40Dc8nw0E6he" ++
    "s0Dc8nw0E6hes0Dc8nw0E6hes0Dc8nw0E6hes0Dc8nw0E6hes0Dc8nw0E6udg0Dc8nw0E6hes0Dc8nw0E6hes0Dc8nw0" ++
    "E6hes0Dc8nw0E6hes0Dc8nw0E6udg0Dc8nw0E6hes0Dbvp80C1l940E594c0Dc8nw0E6hes0Dc8nw0E6hes0Dc8nw0E6" ++
    "hes0Dc8nw0E6udg0Dc8nw0E6hes0Dc8nw0E6hes0Dc8nw0E6hes0Dc8nw0E6hes0Dc8nw0E6udg0Dc8nw0E6hes0Dc8n" ++
    "w0E6hes0Dc8nw0E6hes0Dc8nw0E6hes0Dc8nw0E6hes0Dc8nw0E|MST7MDT,M3.2.0,M11.1.0"),
  ("America/Costa_Rica",
    "-20173,-20173,-18000d,-21600|-15r0trnBg74lc0Dubtl3nC51ek0Ddoo40C51ek0D5jso40C8drw0Dacas0C2xh" ++
    "80D|CST6"),
  ("America/Coyhaique",
    "-17296,-16965,-18000,-14400,-14400d,-10800d,-14400,-10800|-15r0vzkBag6l2tC3dlssrB157b79Df4e0" ++
    "rB49hzb9Eaye0rC7ves0Eawik0C7ves0Eawik0C7ves0Eawik0C7ves0Eayd80C7ves0D534ik0C351g0D24lbw0Eb25" ++
    "c0C2mg00Db73400F7k580Gc8tg0F6h980Ga31g0F7x3w0Gasys0F7x3w0Gb5xg0F7k580Gag040F8a2k0Gb5xg0F7k58" ++
    "0Gb5xg0F7x3w0Gasys0F7x3w0Gasys0F7x3w0Gb5xg0F7k580Gb5xg0F7k580Gb5xg0F7x3w0Gasys0F7x3w0Gasys0F" ++
    "7x3w0Gasys0F7x3w0Gb5xg0F7k580Gb5xg0F7k580Gb5xg0F9cyk0G9d440F7x3w0Gasys0F7x3w0Gb5xg0F7k580G9q" ++
    "2s0F8zzw0Gb5xg0F7x3w0Gasys0F7x3w0Gasys0F7x3w0Gasys0F7x3w0Gb5xg0F7k580Gb5xg0F8n180Ga31g0F7x3w" ++
    "0Ga31g0F9px80G9q2s0F7x3w0Gb5xg0F7k580Gb5xg0F7k580Gb5xg0F7k580Gb5xg0F7x3w0Gasys0F7x3w0Gasys0F" ++
    "7x3w0Gb5xg0F7k580Gb5xg0F8n180Ga31g0F7x3w0Gasys0F8zzw0G9q2s0Fast80G5eis0Fcyl80G6hes0Fc8nw0G6u" ++
    "dg0Fbvp80G6udg0Fvonw0G4olg0Fe1h80G4olg0Fe1h80G4olg0Fc8nw0G7x9g0Fast80G7x9g0Fast80G7x9g0Fast8" ++
    "0G8a840Fafuk0G7x9g0Fb5rw0G7x9g0F9xbw0H6p5hzjH|<-03>3"),
  ("America/Creston",
    "-27964,-25200,-28800,-25200|-18vrx38Bh39xv8Cvbus0B|MST7"),
  ("America/Cuiaba",
    "-13460,-10800d,-14400|-t85hm4C99k9y4B9a9c0C9io40B99980C8p65g0B6zuo0Cbs2o0B67zw0Ccjxg0B69uk0C" ++
    "cjxg0B4ml80C5mf440B49mk0Chaas0B316k0Ccls40B4ml80Ccls40B66580Ccls40B67zw0C981s40B6u7w0Cbiw40B" ++
    "5rbw0Cd0lg0B5ed80Ccyqs0B5ed80Cdbpg0B64ak0Ccyqs0B64ak0Ccls40B5rbw0Cdbpg0B51ek0Cdbpg0B6h980Cc8" ++
    "tg0B6h980Cc8tg0B64ak0Cc8tg0B6u7w0Cbxpg0B7iak0Cbiw40B6u7w0Cbiw40B7k580Cbiw40B6u7w0Cc8tg0B6h98" ++
    "0Cdbpg0B5ed80Cw5hg0B5nmk0Cc8tg0B6h980Cdbpg0B5rbw0Cbvus0B6h980Ccls40B64ak0Ccls40B6h980Cc8tg0B" ++
    "6h980Cc8tg0B6u7w0Cc8tg0B64ak0Ccls40B64ak0Ccls40B6h980Cc8tg0B6h980Cc8tg0B6h980Cc8tg0B6h980Cdb" ++
    "pg0B5ed80C9vi5zjC|<-04>4"),
  ("America/Curacao",
    "-16547,-16200,-14400|-u7lckdBrlo7qdC|AST4"),
  ("America/Danmarkshavn",
    "-4480,-10800,-10800,-7200d,-7200d,0|-rvusjkBx8nx3kE8zrk0C9d1c0D9d1c0C9d1c0D9d1c0C9d1c0D9d1c0" ++
    "C9d1c0D9q000C9d1c0D9d1c0C9d1c0D9d1c0C9d1c0D9d1c0C9d1c0D9d1c0C9d1c0D9d1c0C9d1c0D9q000C9d1c0D9" ++
    "d1c0C9d1c0D9d1c0C9d1c0D9d1c0C9d1c0D9d1c0C9d1c0D9d1c0C53hk0F|GMT0"),
  ("America/Dawson",
    "-33460,-28800d,-32400,-28800d,-28800d,-25200d,-28800,-25200d,-25200|-1079sukC97l62kBa2vw0Cas" ++
    "ys0B882c0Cbmiwc0D1tz000E2e180Ca7n3w0F9q000C465k00G3e2is0H9cyk0G9d440H9cyk0G9d440H9px80G905g0" ++
    "H9px80G9d440H9cyk0G9d440H9cyk0G9d440H9cyk0G8a840Hafuk0G8a840Hast80G7x9g0Hast80G7x9g0Hast80G8" ++
    "a840Hafuk0G8a840Hafuk0G8a840Hast80G7x9g0Hast80G7x9g0Hast80G8a840Hafuk0G8a840Hafuk0G8a840Hafu" ++
    "k0G8a840Hast80G7x9g0Hast80G7x9g0Hast80G8a840Hafuk0G8a840Hafuk0G8a840Hast80G7x9g0Hast80G7x9g0" ++
    "Hast80G6udg0Hc8nw0G6hes0Hc8nw0G6hes0Hc8nw0G6udg0Hc8nw0G6hes0Hc8nw0G6hes0Hc8nw0G6hes0Hc8nw0G6" ++
    "hes0Hc8nw0G6hes0Hc8nw0G6udg0Hc8nw0G6hes0Hc8nw0G6hes0Hc8nw0G6hes0Hc8nw0G6hes0Hc8ic0I|MST7"),
  ("America/Dawson_Creek",
    "-28856,-25200d,-28800,-25200d,-25200d,-25200|-18vrwegChw36ugBa2vw0Cc5jxg0D1tz2s0E2dyg0Ctj1g0" ++
    "B7x3w0Casys0B7x3w0Casys0B7x3w0Cb5xg0B7k580Cb5xg0B7x3w0Casys0B7x3w0Casys0B7x3w0Casys0B7x3w0Ca" ++
    "sys0B7x3w0Cb5xg0B7x3w0Casys0B7x3w0Casys0B7x3w0Casys0B7x3w0Casys0B7x3w0Cb5xg0B7k580Cb5xg0B9cy" ++
    "k0C9d440B9cyk0C9d440B9cyk0C9d440B9px80C905g0B9px80C9d440B9cyk0C9d440B9cyk0C9d440B9cyk0C9d440" ++
    "B9cyk0C9d440B9px80C9d440B69uk0F|MST7"),
  ("America/Denver",
    "-25196,-21600d,-25200,-25200,-21600d,-21600d|-18y0j80Dhxltk0Bast80C7x9g0Bast80C7x9g0Bb5rw0C7" ++
    "kas0B2vmk0Cataw40E1tz5k0F2dvo0Ca7n9g0B9px80C905g0B9px80C9d440B9cyk0C9d440B9cyk0C9d440B9cyk0C" ++
    "9d440B9cyk0C9d440B9px80C9d440B9cyk0C9d440B9cyk0C3lpg0Bf4d80C64g40Bclmk0C9d440B9px80C905g0B9p" ++
    "x80C9d440B9cyk0C9d440B9cyk0C9d440B9cyk0C9d440B9cyk0C9d440B9px80C905g0B9px80C9d440B9cyk0C9d44" ++
    "0B9cyk0C9d440B9cyk0C8a840Bafuk0C8a840Bast80C7x9g0Bast80C7x9g0Bast80C8a840Bafuk0C8a840Bafuk0C" ++
    "8a840Bast80C7x9g0Bast80C7x9g0Bast80C8a840Bafuk0C8a840Bafuk0C8a840Bafuk0C8a840Bast80C7x9g0Bas" ++
    "t80C7x9g0Bast80C8a840Bafuk0C8a840Bafuk0C8a840Bast80C7x9g0Bast80C7x9g0Bast80C6udg0Bc8nw0C6hes" ++
    "0Bc8nw0C6hes0Bc8nw0C6udg0Bc8nw0C6hes0Bc8nw0C6hes0Bc8nw0C6hes0Bc8nw0C6hes0Bc8nw0C6hes0Bc8nw0C" ++
    "6udg0Bc8nw0C6hes0Bc8nw0C6hes0Bc8nw0C6hes0Bc8nw0C6hes0Bc8nw0C6udg0Bc8nw0C6hes0Bc8nw0C6hes0Bc8" ++
    "nw0C6hes0Bc8nw0C6hes0Bc8nw0C6hes0Bc8nw0C6udg0Bc8nw0C6hes0Bc8nw0C6hes0Bc8nw0C6hes0Bc8nw0C6hes" ++
    "0Bc8nw0C6udg0Bc8nw0C6hes0Bc8nw0C6hes0Bc8nw0C6hes0Bc8nw0C6hes0Bc8nw0C6hes0Bc8nw0C|MST7MDT,M3." ++
    "2.0,M11.1.0"),
  ("America/Detroit",
    "-19931,-21600,-18000,-14400d,-14400d,-14400d|-xx8dydB5eraudCdyeyk0D1tzb40E2dq40C1c9440F7x3w0" ++
    "C9rlbxoF71s2cC9d440F9cyk0C2cmdg0F9cyk0C3lpg0Ff4d80C9d440F9cyk0C9d440F9px80C905g0F9px80C9d440" ++
    "F9cyk0C9d440F9cyk0C9d440F9cyk0C9d440F9cyk0C9d440F9px80C905g0F9px80C9d440F9cyk0C9d440F9cyk0C9" ++
    "d440F9cyk0C8a840Fafuk0C8a840Fast80C7x9g0Fast80C7x9g0Fast80C8a840Fafuk0C8a840Fafuk0C8a840Fast" ++
    "80C7x9g0Fast80C7x9g0Fast80C8a840Fafuk0C8a840Fafuk0C8a840Fafuk0C8a840Fast80C7x9g0Fast80C7x9g0" ++
    "Fast80C8a840Fafuk0C8a840Fafuk0C8a840Fast80C7x9g0Fast80C7x9g0Fast80C6udg0Fc8nw0C6hes0Fc8nw0C6" ++
    "hes0Fc8nw0C6udg0Fc8nw0C6hes0Fc8nw0C6hes0Fc8nw0C6hes0Fc8nw0C6hes0Fc8nw0C6hes0Fc8nw0C6udg0Fc8n" ++
    "w0C6hes0Fc8nw0C6hes0Fc8nw0C6hes0Fc8nw0C6hes0Fc8nw0C6udg0Fc8nw0C6hes0Fc8nw0C6hes0Fc8nw0C6hes0" ++
    "Fc8nw0C6hes0Fc8nw0C6hes0Fc8nw0C6udg0Fc8nw0C6hes0Fc8nw0C6hes0Fc8nw0C6hes0Fc8nw0C6hes0Fc8nw0C6" ++
    "udg0Fc8nw0C6hes0Fc8nw0C6hes0Fc8nw0C6hes0Fc8nw0C6hes0Fc8nw0C6hes0Fc8nw0C|EST5EDT,M3.2.0,M11.1" ++
    ".0"),
  ("America/Dominica",
    "-14736,-14400|-uj7wl0B|AST4"),
  ("America/Edmonton",
    "-27232,-21600d,-25200,-21600d,-21600d|-x1yazkC629inkBa2vw0C8n6s0B29ek0Ch6lg0B9px80C905g0B7x3" ++
    "w0Cb5xg0B7k580Cb5xg0B7x3w0C9l0g40D1tz5k0E2dvo0Ctj1g0B7x3w0Cctzk40B9cyk0C9d440B9cyk0C9d440B9c" ++
    "yk0C9d440B9cyk0C9d440B9px80C905g0B9px80C9d440B9cyk0C9d440B9cyk0C9d440B9cyk0C9d440B9cyk0C9d44" ++
    "0B9px80C905g0B9px80C9d440B9cyk0C9d440B9cyk0C9d440B9cyk0C8a840Bafuk0C8a840Bast80C7x9g0Bast80C" ++
    "7x9g0Bast80C8a840Bafuk0C8a840Bafuk0C8a840Bast80C7x9g0Bast80C7x9g0Bast80C8a840Bafuk0C8a840Baf" ++
    "uk0C8a840Bafuk0C8a840Bast80C7x9g0Bast80C7x9g0Bast80C8a840Bafuk0C8a840Bafuk0C8a840Bast80C7x9g" ++
    "0Bast80C7x9g0Bast80C6udg0Bc8nw0C6hes0Bc8nw0C6hes0Bc8nw0C6udg0Bc8nw0C6hes0Bc8nw0C6hes0Bc8nw0C" ++
    "6hes0Bc8nw0C6hes0Bc8nw0C6hes0Bc8nw0C6udg0Bc8nw0C6hes0Bc8nw0C6hes0Bc8nw0C6hes0Bc8nw0C6hes0Bc8" ++
    "nw0C6udg0Bc8nw0C6hes0Bc8nw0C6hes0Bc8nw0C6hes0Bc8nw0C6hes0Bc8nw0C6hes0Bc8nw0C6udg0Bc8nw0C6hes" ++
    "0Bc8nw0C6hes0Bc8nw0C6hes0Bc8nw0C6hes0Bc8nw0C6udg0Bc8nw0C6hes0Bc8nw0C6hes0Bc8nw0C6hes0Bc8nw0C" ++
    "6hes0Bc8nw0C6hes0Bc8nw0C|MST7MDT,M3.2.0,M11.1.0"),
  ("America/Eirunepe",
    "-16768,-14400d,-18000,-14400,-18000|-t85f28C99ka68B9a9c0C9io40B99980C8p65g0B6zuo0Cbs2o0B67zw" ++
    "0Ccjxg0B69uk0Ccjxg0B4ml80C5mf440B49mk0Chaas0B316k0Ccls40B4ml80Ccls40B66580Ccls40B67zw0C981s4" ++
    "0B6u7w0Cbiw40B5rbw0Cd0lg0B5ed80C2yy2s0B6h980C7hg2s0D2t2t80CcmiwjjC|<-05>5"),
  ("America/El_Salvador",
    "-21408,-18000d,-21600|-pkm4tcCymao5cB7k580Cb5xg0B7k580C|CST6"),
  ("America/Fort_Nelson",
    "-29447,-25200d,-28800,-25200d,-25200d,-25200|-18vrvy1Chw36e1Ba2vw0Cc5jxg0D1tz2s0E2dyg0Ctj1g0" ++
    "B7x3w0Casys0B7x3w0Casys0B7x3w0Cb5xg0B7k580Cb5xg0B7x3w0Casys0B7x3w0Casys0B7x3w0Casys0B7x3w0Ca" ++
    "sys0B7x3w0Cb5xg0B7x3w0Casys0B7x3w0Casys0B7x3w0Casys0B7x3w0Casys0B7x3w0Cb5xg0B7k580Cb5xg0B9cy" ++
    "k0C9d440B9cyk0C9d440B9cyk0C9d440B9px80C905g0B9px80C9d440B9cyk0C9d440B9cyk0C9d440B9cyk0C9d440" ++
    "B9cyk0C9d440B9px80C9d440B9cyk0C9d440B9cyk0C9d440B9cyk0C9d440B9cyk0C9d440B9px80C905g0B9px80C9" ++
    "d440B9cyk0C9d440B9cyk0C9d440B9cyk0C9d440B9cyk0C9d440B9px80C905g0B9px80C9d440B9cyk0C9d440B9cy" ++
    "k0C9d440B9cyk0C8a840Bafuk0C8a840Bast80C7x9g0Bast80C7x9g0Bast80C8a840Bafuk0C8a840Bafuk0C8a840" ++
    "Bast80C7x9g0Bast80C7x9g0Bast80C8a840Bafuk0C8a840Bafuk0C8a840Bafuk0C8a840Bast80C7x9g0Bast80C7" ++
    "x9g0Bast80C8a840Bafuk0C8a840Bafuk0C8a840Bast80C7x9g0Bast80C7x9g0Bast80C6udg0Bc8nw0C6hes0Bc8n" ++
    "w0C6hes0Bc8nw0C6udg0Bc8nw0C6hes0Bc8nw0C6hes0Bc8nw0C6hes0Bc8nw0C6hes0Bc8nw0C6hes0F|MST7"),
  ("America/Fortaleza",
    "-9240,-7200d,-10800|-t85kvcC99kafcB9a9c0C9io40B99980C8p65g0B6zuo0Cbs2o0B67zw0Ccjxg0B69uk0Ccj" ++
    "xg0B4ml80C5mf440B49mk0Chaas0B316k0Ccls40B4ml80Ccls40B66580Ccls40B67zw0C981s40B6u7w0Cbiw40B5r" ++
    "bw0Cd0lg0B5ed80Ccyqs0B5ed80Cdbpg0B64ak0C514g40B7k580Cbiw40Bpuk0Cid6s0B6h980Ciqwe3jC|<-03>3"),
  ("America/Glace_Bay",
    "-14388,-10800d,-14400,-10800d,-10800d|-z94kwcC89fk8cBa2vw0Cc5jxg0D1tzdw0E2dnc0C3y8g40B7x3w0C" ++
    "9pa5g0B9cyk0C9d440B9cyk0C9d440B9cyk0C9d440B9cyk0C9d440B9px80C905g0B9px80C9d440B9cyk0C9d440B9" ++
    "cyk0C9d440B9cyk0C9d440B9cyk0C9d440B9px80C905g0B9px80C9d440B9cyk0C9d440B9cyk0C9d440B9cyk0C8a8" ++
    "40Bafuk0C8a840Bast80C7x9g0Bast80C7x9g0Bast80C8a840Bafuk0C8a840Bafuk0C8a840Bast80C7x9g0Bast80" ++
    "C7x9g0Bast80C8a840Bafuk0C8a840Bafuk0C8a840Bafuk0C8a840Bast80C7x9g0Bast80C7x9g0Bast80C8a840Ba" ++
    "fuk0C8a840Bafuk0C8a840Bast80C7x9g0Bast80C7x9g0Bast80C6udg0Bc8nw0C6hes0Bc8nw0C6hes0Bc8nw0C6ud" ++
    "g0Bc8nw0C6hes0Bc8nw0C6hes0Bc8nw0C6hes0Bc8nw0C6hes0Bc8nw0C6hes0Bc8nw0C6udg0Bc8nw0C6hes0Bc8nw0" ++
    "C6hes0Bc8nw0C6hes0Bc8nw0C6hes0Bc8nw0C6udg0Bc8nw0C6hes0Bc8nw0C6hes0Bc8nw0C6hes0Bc8nw0C6hes0Bc" ++
    "8nw0C6hes0Bc8nw0C6udg0Bc8nw0C6hes0Bc8nw0C6hes0Bc8nw0C6hes0Bc8nw0C6hes0Bc8nw0C6udg0Bc8nw0C6he" ++
    "s0Bc8nw0C6hes0Bc8nw0C6hes0Bc8nw0C6hes0Bc8nw0C6hes0Bc8nw0C|AST4ADT,M3.2.0,M11.1.0"),
  ("America/Goose_Bay",
    "-14500,-12652,-9052d,-12600,-9000d,-9000d,-9000d,-10800d,-14400,-7200d,-10800d|-18vs7h8Bhw35" ++
    "goCa2vw0B8kjbw0DkzjykE7k580Db5xg0E7k580Db5xg0E7k580Dbiw40E776k0Dbiw40E7k580Db5xg0E7k580Db5xg" ++
    "0G1pb260F2dly0Dbiw40E7k580Db5xg0E7k580Db5xg0E7k580Db5xg0E7k580Dbiw40E7k580Dag040E7x3w0Dasys0" ++
    "E7x3w0Dasys0E7x3w0Dasys0E7x3w0Dasys0E7x3w0Db5xg0E7x3w0Dasys0E7x3w0Dasys0E7x3w0Dasys0E7x3w0Da" ++
    "sys0E9px80D9d440E9cyk0D9d440E9cyk0D9d440E9cyk0D9d440E9cyk0D9d440E9px80D6y2s0I22420H9px80I9d4" ++
    "40H9cyk0I9d440H9cyk0I9d440H9cyk0I9d440H9cyk0I9d440H9px80I9d440H9cyk0I9d440H9cyk0I9d440H9cyk0" ++
    "I9d440H9cyk0I9d440H9px80I905g0H9px80I9d440H9cyk0I9d440H9cyk0I9d440H9cyk0I9d440H9cyk0I9d440H9" ++
    "px80I905g0H9px80I9d440H9cyk0I9d440H9cyk0I9d440H9cyk0I8a2loHafuk0I8a840Jasqg0I7xc80Hast80I7x9" ++
    "g0Hast80I8a840Hafuk0I8a840Hafuk0I8a840Hast80I7x9g0Hast80I7x9g0Hast80I8a840Hafuk0I8a840Hafuk0" ++
    "I8a840Hafuk0I8a840Hast80I7x9g0Hast80I7x9g0Hast80I8a840Hafuk0I8a840Hafuk0I8a840Hast80I7x9g0Ha" ++
    "st80I7x9g0Hast80I6udg0Hc8nw0I6hes0Hc8nw0I6hes0Hc8nw0I6udg0Hc8nw0I6hes0Hc8tecI6hes0Hc8nw0I6he" ++
    "s0Hc8nw0I6hes0Hc8nw0I6hes0Hc8nw0I6udg0Hc8nw0I6hes0Hc8nw0I6hes0Hc8nw0I6hes0Hc8nw0I6hes0Hc8nw0" ++
    "I6udg0Hc8nw0I6hes0Hc8nw0I6hes0Hc8nw0I6hes0Hc8nw0I6hes0Hc8nw0I6hes0Hc8nw0I6udg0Hc8nw0I6hes0Hc" ++
    "8nw0I6hes0Hc8nw0I6hes0Hc8nw0I6hes0Hc8nw0I6udg0Hc8nw0I6hes0Hc8nw0I6hes0Hc8nw0I6hes0Hc8nw0I6he" ++
    "s0Hc8nw0I6hes0Hc8nw0I|AST4ADT,M3.2.0,M11.1.0"),
  ("America/Grand_Turk",
    "-17072,-18430,-18000,-14400d,-14400,-18000|-15r0w5sBbiv7pqCz3brw2D9cyk0C9d440D9cyk0C9d440D9c" ++
    "yk0C9d440D9px80C905g0D9px80C9d440D9cyk0C9d440D9cyk0C9d440D9cyk0C8a840Dafuk0C8a840Dast80C7x9g" ++
    "0Dast80C7x9g0Dast80C8a840Dafuk0C8a840Dafuk0C8a840Dast80C7x9g0Dast80C7x9g0Dast80C8a840Dafuk0C" ++
    "8a840Dafuk0C8a840Dafuk0C8a840Dast80C7x9g0Dast80C7x9g0Dast80C8a840Dafuk0C8a840Dafuk0C8a840Das" ++
    "t80C7x9g0Dast80C7x9g0Dast80C6udg0Dc8nw0C6hes0Dc8nw0C6hes0Dc8nw0C6udg0Dc8nw0C6hes0Dc8nw0C6hes" ++
    "0Dc8nw0C6hes0Dc8nw0C6hes0Dc8nw0C6hes0E1kj6o0Dc8nw0C6hes0Dc8nw0C6hes0Dc8nw0C6udg0Dc8nw0C6hes0" ++
    "Dc8nw0C6hes0Dc8nw0C6hes0Dc8nw0C6hes0Dc8nw0C6hes0Dc8nw0C6udg0Dc8nw0C6hes0Dc8nw0C6hes0Dc8nw0C6" ++
    "hes0Dc8nw0C6hes0Dc8nw0C6udg0Dc8nw0C6hes0Dc8nw0C6hes0Dc8nw0C6hes0Dc8nw0C6hes0Dc8nw0C6hes0Dc8n" ++
    "w0C|EST5EDT,M3.2.0,M11.1.0"),
  ("America/Grenada",
    "-14820,-14400|-uj7wkcB|AST4"),
  ("America/Guadeloupe",
    "-14768,-14400|-ukehxsB|AST4"),
  ("America/Guatemala",
    "-21724,-18000d,-21600|-qqqskkCss0akkB4ofw0C4tidg0B6djw0C3wwas0B8n180C7n5ms0B7x3w0C|CST6"),
  ("America/Guayaquil",
    "-19160,-18840,-14400d,-18000|-15r0ujsBle9mf4Dwb620oC3jp80DnglhvjD|<-05>5"),
  ("America/Guyana",
    "-13959,-14400,-13500,-10800,-14400|-uhmik9B1va8c9Cvj6nb0D8p0jd0Bnwp4jjB|<-04>4"),
  ("America/Halifax",
    "-15264,-10800d,-14400,-10800d,-10800d|-z94k80C777go0B9et80Cst9o0Ba2vw0Cssyk0B5rbw0Ccv1g0B69u" ++
    "k0Cc6ys0B6kyk0Cci2s0B67zw0Cci2s0B6w2k0Cbu040B7lzw0Cbu040B66580Cbu040B7lzw0Cbu040B64ak0Ccls40" ++
    "B5v180Ccv1g0B6j3w0Cc6ys0B79180Cb42s0B7lzw0Cb42s0B7yyk0Cbu040B64ak0Cdbpg0B66580Ccls40B5ed80Cb" ++
    "u040B7lzw0Cb42s0B7lzw0Ccjxg0B66580Cbh1g0B7lzw0Cb42s0B7lzw0C6uj00D1tzdw0E2dnc0Casys0B7x3w0Cas" ++
    "ys0B7x3w0Casys0B7x3w0Casys0B7x3w0Ctw040B7x3w0Casys0B7x3w0Casys0B7x3w0Casys0B7x3w0Ctw040B7x3w" ++
    "0Casys0B7x3w0Casys0B7x3w0Casys0B7x3w0C1cm2s0B9cyk0C9d440B9cyk0C9d440B9cyk0C9d440B9px80C905g0" ++
    "B9px80C9d440B9cyk0C9d440B9cyk0C9d440B9cyk0C9d440B9cyk0C9d440B9px80C9d440B9cyk0C9d440B9cyk0C9" ++
    "d440B9cyk0C9d440B9cyk0C9d440B9px80C905g0B9px80C9d440B9cyk0C9d440B9cyk0C9d440B9cyk0C9d440B9cy" ++
    "k0C9d440B9px80C905g0B9px80C9d440B9cyk0C9d440B9cyk0C9d440B9cyk0C8a840Bafuk0C8a840Bast80C7x9g0" ++
    "Bast80C7x9g0Bast80C8a840Bafuk0C8a840Bafuk0C8a840Bast80C7x9g0Bast80C7x9g0Bast80C8a840Bafuk0C8" ++
    "a840Bafuk0C8a840Bafuk0C8a840Bast80C7x9g0Bast80C7x9g0Bast80C8a840Bafuk0C8a840Bafuk0C8a840Bast" ++
    "80C7x9g0Bast80C7x9g0Bast80C6udg0Bc8nw0C6hes0Bc8nw0C6hes0Bc8nw0C6udg0Bc8nw0C6hes0Bc8nw0C6hes0" ++
    "Bc8nw0C6hes0Bc8nw0C6hes0Bc8nw0C6hes0Bc8nw0C6udg0Bc8nw0C6hes0Bc8nw0C6hes0Bc8nw0C6hes0Bc8nw0C6" ++
    "hes0Bc8nw0C6udg0Bc8nw0C6hes0Bc8nw0C6hes0Bc8nw0C6hes0Bc8nw0C6hes0Bc8nw0C6hes0Bc8nw0C6udg0Bc8n" ++
    "w0C6hes0Bc8nw0C6hes0Bc8nw0C6hes0Bc8nw0C6hes0Bc8nw0C6udg0Bc8nw0C6hes0Bc8nw0C6hes0Bc8nw0C6hes0" ++
    "Bc8nw0C6hes0Bc8nw0C6hes0Bc8nw0C|AST4ADT,M3.2.0,M11.1.0"),
  ("America/Havana",
    "-19768,-19776,-14400d,-18000,-18000,-14400d|-15r0u2wBijto08D1icfyoC69uk0D62s040C4ofw0De1ms0C" ++
    "51ek0De1ms0C4ofw0D1fhs40C4ofw0De1ms0C4ofw0D9s9k40C67zw0Dcedg0C6h980D9o840C7yyk0Db5xg0C7k580D" ++
    "bvus0C9cyk0D9d440C9cyk0D9d440C9px80D9d440C8a2k0Dag040C8bx80Dae5g0C8drw0Dacas0C9cyk0D9d440C9p" ++
    "x80D905g0C9px80D9q2s0C7x3w0D8a840Cast80D7x9g0Cast80Dasys0C7x3w0Dasys0C7x3w0Dasys0C7x3w0Dasys" ++
    "0C8a2k0Dag040C8a2k0D7x9g0Cast80D7x9g0Cast80D8a840Cafuk0D8a840Cafuk0D905g0Ca2vw0D905g0C9q000E" ++
    "902o0C9q000E902o0C9q000E902o0C9q000E902o0C9q000E9d1c0C9d1c0E9d1c0C9q000E8n400Fasw00E7x6o0Fb5" ++
    "uo0E7x6o0Fasw00E7x6o0Fasw00E8a5c0Fafxc0E8a5c0Fafxc0E7x6o0F1cm000E6uao0Fbvs00E779c0Fbitc0E6ua" ++
    "o0Fbvs00E779c0Fbvs00E779c0Fc8qo0E779c0Fb5uo0E6hc00Fc8qo0E6hc00Fc8qo0E6hc00Fc8qo0E6uao0Fc8qo0" ++
    "E6hc00Fc8qo0E6hc00Fc8qo0E6hc00Fc8qo0E6hc00Fc8qo0E6uao0Fc8qo0E6hc00Fc8qo0E6hc00Fc8qo0E6hc00Fc" ++
    "8qo0E6hc00Fc8qo0E6hc00Fc8qo0E6uao0Fc8qo0E6hc00Fc8qo0E6hc00Fc8qo0E6hc00Fc8qo0E6hc00Fc8qo0E6ua" ++
    "o0Fc8qo0E6hc00Fc8qo0E6hc00Fc8qo0E6hc00Fc8qo0E6hc00Fc8qo0E6hc00Fc8qo0E|CST5CDT,M3.2.0/0,M11.1" ++
    ".0/1"),
  ("America/Hermosillo",
    "-26632,-25200,-21600,-21600d,-25200|-p1u4k0B2u5s00C1si580E8jhg0D7x3w0E9eys0C591h80Es5qoc0Daf" ++
    "uk0E8a840Dafuk0E8a840Dafuk0E|MST7"),
  ("America/Indiana/Indianapolis",
    "-20678,-18000d,-21600,-21600,-18000d,-18000d,-18000,-14400d|-18y0m00Dhxltk0Bast80C7x9g0Bast8" ++
    "0Cbaw840B51ek0C6w840E1tz8c0F2dsw0Casys0B7x3w0Casys0B7x3w0Casys0B7x3w0Casys0B7x3w0Cb5xg0B7k58" ++
    "0Cb5xg0B7x3w0Casys0B7x3w0Casys0B7x3w0Casys0B7x3w0Casys0G19q7w0Casys0G5qonw0H9cyk0G9d440H9cyk" ++
    "0Gihslg0Hast80G6udg0Hc8nw0G6hes0Hc8nw0G6hes0Hc8nw0G6udg0Hc8nw0G6hes0Hc8nw0G6hes0Hc8nw0G6hes0" ++
    "Hc8nw0G6hes0Hc8nw0G6hes0Hc8nw0G6udg0Hc8nw0G6hes0Hc8nw0G6hes0Hc8nw0G6hes0Hc8nw0G6hes0Hc8nw0G6" ++
    "udg0Hc8nw0G6hes0Hc8nw0G6hes0Hc8nw0G6hes0Hc8nw0G6hes0Hc8nw0G6hes0Hc8nw0G6udg0Hc8nw0G6hes0Hc8n" ++
    "w0G6hes0Hc8nw0G6hes0Hc8nw0G6hes0Hc8nw0G6udg0Hc8nw0G6hes0Hc8nw0G6hes0Hc8nw0G6hes0Hc8nw0G6hes0" ++
    "Hc8nw0G6hes0Hc8nw0G|EST5EDT,M3.2.0,M11.1.0"),
  ("America/Indiana/Knox",
    "-20790,-18000d,-21600,-18000d,-18000d,-21600,-18000,-21600|-18y0m00Fhxltk0Bast80C7x9g0Bast80" ++
    "Cbmtus0D1tz8c0E2dsw0Ctj1g0B7x3w0Casys0B7x3w0Casys0B7x3w0Cb5xg0B7k580Cb5xg0B7x3w0Casys0B7x3w0" ++
    "Casys0B7x3w0Casys0B7x3w0Casys0B9px80C9d440B9cyk0C9d440B7x3w0Casys0B7x3w0Casys0B9cyk0C9d440B9" ++
    "px80C9d440B9cyk0C9d440Gs3180C1twas0B9cyk0C9d440B9cyk0C9d440B9cyk0C9d440B9cyk0C9d440B9px80C9d" ++
    "440B9cyk0C9d440B9cyk0C3lpg0Bf4d80C64g40Bclmk0C9d440B9px80C905g0B9px80C9d440B9cyk0C9d440B9cyk" ++
    "0C9d440B9cyk0C9d440B9cyk0C9d440B9px80C905g0B9px80C9d440B9cyk0C9d440B9cyk0C9d440B9cyk0C8a840B" ++
    "afuk0C8a840Bast80C7x9g0Bast80C7x9g0Bast80C8a840Bafuk0G7j5400Basw00C6udg0Bc8nw0C6hes0Bc8nw0C6" ++
    "hes0Bc8nw0C6udg0Bc8nw0C6hes0Bc8nw0C6hes0Bc8nw0C6hes0Bc8nw0C6hes0Bc8nw0C6hes0Bc8nw0C6udg0Bc8n" ++
    "w0C6hes0Bc8nw0C6hes0Bc8nw0C6hes0Bc8nw0C6hes0Bc8nw0C6udg0Bc8nw0C6hes0Bc8nw0C6hes0Bc8nw0C6hes0" ++
    "Bc8nw0C6hes0Bc8nw0C6hes0Bc8nw0C6udg0Bc8nw0C6hes0Bc8nw0C6hes0Bc8nw0C6hes0Bc8nw0C6hes0Bc8nw0C6" ++
    "udg0Bc8nw0C6hes0Bc8nw0C6hes0Bc8nw0C6hes0Bc8nw0C6hes0Bc8nw0C6hes0Bc8nw0C|CST6CDT,M3.2.0,M11.1" ++
    ".0"),
  ("America/Indiana/Marengo",
    "-20723,-18000d,-21600,-18000d,-18000d,-21600,-18000,-14400d|-18y0m00Fhxltk0Bast80C7x9g0Bast8" ++
    "0Cbmtus0D1tz8c0E2dsw0C2wsas0B7x3w0C1c9440B7x3w0Casys0B7x3w0Cb5xg0B7x3w0Casys0B7x3w0Casys0B7x" ++
    "3w0Casys0B7x3w0Casys0B7x3w0Cb5xg0G465h80H9cyk0G9d440H9cyk0G9d440H9px80G9d440H9cyk0G9d440H9cy" ++
    "k0G3lpg0Bf4g00G64dc0Hclmk0Gfvt9g0Hast80G6udg0Hc8nw0G6hes0Hc8nw0G6hes0Hc8nw0G6udg0Hc8nw0G6hes" ++
    "0Hc8nw0G6hes0Hc8nw0G6hes0Hc8nw0G6hes0Hc8nw0G6hes0Hc8nw0G6udg0Hc8nw0G6hes0Hc8nw0G6hes0Hc8nw0G" ++
    "6hes0Hc8nw0G6hes0Hc8nw0G6udg0Hc8nw0G6hes0Hc8nw0G6hes0Hc8nw0G6hes0Hc8nw0G6hes0Hc8nw0G6hes0Hc8" ++
    "nw0G6udg0Hc8nw0G6hes0Hc8nw0G6hes0Hc8nw0G6hes0Hc8nw0G6hes0Hc8nw0G6udg0Hc8nw0G6hes0Hc8nw0G6hes" ++
    "0Hc8nw0G6hes0Hc8nw0G6hes0Hc8nw0G6hes0Hc8nw0G|EST5EDT,M3.2.0,M11.1.0"),
  ("America/Indiana/Petersburg",
    "-20947,-18000d,-21600,-18000d,-18000d,-21600,-18000,-14400d|-18y0m00Fhxltk0Bast80C7x9g0Bast8" ++
    "0Cbmtus0D1tz8c0E2dsw0C501ek0B7kas0Cb5xg0B7x3w0Casys0B7x3w0Casys0B7x3w0Casys0B7x3w0Casys0B7x3" ++
    "w0Cb5xg0B9cyk0C9d440B9cyk0C9d440B9cyk0C9d440B9cyk0C9d440Gsfzw0C9d440B9cyk0C9d440B9cyk0C9d440" ++
    "B9cyk0C9d440B9cyk0C9d440B9px80C9d440B9cyk0C9d440B9cyk0C3lpg0Bf4d80C64g40Bclmk0C9d440B9px80C9" ++
    "05g0B9px80Geu02o0Basw00C6udg0Bc8nw0G6hc00Hc8nw0G6hes0Hc8nw0G6udg0Hc8nw0G6hes0Hc8nw0G6hes0Hc8" ++
    "nw0G6hes0Hc8nw0G6hes0Hc8nw0G6hes0Hc8nw0G6udg0Hc8nw0G6hes0Hc8nw0G6hes0Hc8nw0G6hes0Hc8nw0G6hes" ++
    "0Hc8nw0G6udg0Hc8nw0G6hes0Hc8nw0G6hes0Hc8nw0G6hes0Hc8nw0G6hes0Hc8nw0G6hes0Hc8nw0G6udg0Hc8nw0G" ++
    "6hes0Hc8nw0G6hes0Hc8nw0G6hes0Hc8nw0G6hes0Hc8nw0G6udg0Hc8nw0G6hes0Hc8nw0G6hes0Hc8nw0G6hes0Hc8" ++
    "nw0G6hes0Hc8nw0G6hes0Hc8nw0G|EST5EDT,M3.2.0,M11.1.0"),
  ("America/Indiana/Tell_City",
    "-20823,-18000d,-21600,-18000d,-18000d,-21600,-18000,-14400d,-18000d,-21600|-18y0m00Fhxltk0Ba" ++
    "st80C7x9g0Bast80Cbmtus0D1tz8c0E2dsw0C501ek0B7kas0Cb5xg0B7x3w0Casys0B7x3w0Casys0B7x3w0Casys0B" ++
    "7x3w0Casys0B7x3w0Cb5xg0B9cyk0C9d440B9cyk0C9d440B9cyk0C9d440G1tw580C9d440B9cyk0C9d440H9cvs0G9" ++
    "d440H9cyk0Gihslg0Basw00C6udg0Bc8nw0C6hes0Bc8nw0C6hes0Bc8nw0C6udg0Bc8nw0C6hes0Bc8nw0C6hes0Bc8" ++
    "nw0C6hes0Bc8nw0C6hes0Bc8nw0C6hes0Bc8nw0C6udg0Bc8nw0C6hes0Bc8nw0C6hes0Bc8nw0C6hes0Bc8nw0C6hes" ++
    "0Bc8nw0C6udg0Bc8nw0C6hes0Bc8nw0C6hes0Bc8nw0C6hes0Bc8nw0C6hes0Bc8nw0C6hes0Bc8nw0C6udg0Bc8nw0C" ++
    "6hes0Bc8nw0C6hes0Bc8nw0C6hes0Bc8nw0C6hes0Bc8nw0C6udg0Bc8nw0C6hes0Bc8nw0C6hes0Bc8nw0C6hes0Bc8" ++
    "nw0C6hes0Bc8nw0C6hes0Bc8nw0C|CST6CDT,M3.2.0,M11.1.0"),
  ("America/Indiana/Vevay",
    "-20416,-18000d,-21600,-18000d,-18000d,-21600,-18000,-14400d|-18y0m00Fhxltk0Bast80C7x9g0Bast8" ++
    "0Cbmtus0D1tz8c0E2dsw0C4gyis0G7txx80H9cyk0G9d440H9cyk0G9d440H9px80G9d440H9cyk0Ghfzhg0Hast80G6" ++
    "udg0Hc8nw0G6hes0Hc8nw0G6hes0Hc8nw0G6udg0Hc8nw0G6hes0Hc8nw0G6hes0Hc8nw0G6hes0Hc8nw0G6hes0Hc8n" ++
    "w0G6hes0Hc8nw0G6udg0Hc8nw0G6hes0Hc8nw0G6hes0Hc8nw0G6hes0Hc8nw0G6hes0Hc8nw0G6udg0Hc8nw0G6hes0" ++
    "Hc8nw0G6hes0Hc8nw0G6hes0Hc8nw0G6hes0Hc8nw0G6hes0Hc8nw0G6udg0Hc8nw0G6hes0Hc8nw0G6hes0Hc8nw0G6" ++
    "hes0Hc8nw0G6hes0Hc8nw0G6udg0Hc8nw0G6hes0Hc8nw0G6hes0Hc8nw0G6hes0Hc8nw0G6hes0Hc8nw0G6hes0Hc8n" ++
    "w0G|EST5EDT,M3.2.0,M11.1.0"),
  ("America/Indiana/Vincennes",
    "-21007,-18000d,-21600,-18000d,-18000d,-21600,-18000,-14400d|-18y0m00Fhxltk0Bast80C7x9g0Bast8" ++
    "0Cbmtus0D1tz8c0E2dsw0Casys0B7x3w0C3fidg0B7x3w0Casys0B7x3w0Cb5rw0B7kas0Cb5xg0B7x3w0Casys0B7x3" ++
    "w0Casys0B7x3w0Casys0B7x3w0Casys0B9px80C9d440B7k580Cb5xg0B9cyk0C9d440B9cyk0C9d440G2lz980H9cyk" ++
    "0G9d440H9cyk0Gihslg0Basw00C6udg0Bc8nw0G6hc00Hc8nw0G6hes0Hc8nw0G6udg0Hc8nw0G6hes0Hc8nw0G6hes0" ++
    "Hc8nw0G6hes0Hc8nw0G6hes0Hc8nw0G6hes0Hc8nw0G6udg0Hc8nw0G6hes0Hc8nw0G6hes0Hc8nw0G6hes0Hc8nw0G6" ++
    "hes0Hc8nw0G6udg0Hc8nw0G6hes0Hc8nw0G6hes0Hc8nw0G6hes0Hc8nw0G6hes0Hc8nw0G6hes0Hc8nw0G6udg0Hc8n" ++
    "w0G6hes0Hc8nw0G6hes0Hc8nw0G6hes0Hc8nw0G6hes0Hc8nw0G6udg0Hc8nw0G6hes0Hc8nw0G6hes0Hc8nw0G6hes0" ++
    "Hc8nw0G6hes0Hc8nw0G6hes0Hc8nw0G|EST5EDT,M3.2.0,M11.1.0"),
  ("America/Indiana/Winamac",
    "-20785,-18000d,-21600,-18000d,-18000d,-21600,-18000,-14400d|-18y0m00Fhxltk0Bast80C7x9g0Bast8" ++
    "0Cbmtus0D1tz8c0E2dsw0Casys0B7x3w0Casys0B7x3w0Casys0B7x3w0Casys0B7x3w0Cb5xg0B7k580Cb5xg0B7x3w" ++
    "0Casys0B7x3w0Casys0B7x3w0Casys0B7x3w0Casys0B9px80C9d440B9cyk0C9d440B7x3w0Casys0B7x3w0Casys0B" ++
    "7x3w0Casys0B7x3w0Cb5xg0G465h80H9cyk0G9d440H9cyk0Gihslg0Basw00C6udg0Hc8l40G6hes0Hc8nw0G6hes0H" ++
    "c8nw0G6udg0Hc8nw0G6hes0Hc8nw0G6hes0Hc8nw0G6hes0Hc8nw0G6hes0Hc8nw0G6hes0Hc8nw0G6udg0Hc8nw0G6h" ++
    "es0Hc8nw0G6hes0Hc8nw0G6hes0Hc8nw0G6hes0Hc8nw0G6udg0Hc8nw0G6hes0Hc8nw0G6hes0Hc8nw0G6hes0Hc8nw" ++
    "0G6hes0Hc8nw0G6hes0Hc8nw0G6udg0Hc8nw0G6hes0Hc8nw0G6hes0Hc8nw0G6hes0Hc8nw0G6hes0Hc8nw0G6udg0H" ++
    "c8nw0G6hes0Hc8nw0G6hes0Hc8nw0G6hes0Hc8nw0G6hes0Hc8nw0G6hes0Hc8nw0G|EST5EDT,M3.2.0,M11.1.0"),
  ("America/Inuvik",
    "0,-25200d,-28800,-25200,-21600d|-8ve5c0Ca34zs0B9cyk0C9d440B9cyk0C9d440B9cyk0C9d440B9cyk0C9d4" ++
    "40B9px80C905g0B9px80C9d440B9cyk0C9d440E9cvs0D9d440E9cyk0D9d440E9cyk0D9d440E9px80D905g0E9px80" ++
    "D9d440E9cyk0D9d440E9cyk0D9d440E9cyk0D8a840Eafuk0D8a840East80D7x9g0East80D7x9g0East80D8a840Ea" ++
    "fuk0D8a840Eafuk0D8a840East80D7x9g0East80D7x9g0East80D8a840Eafuk0D8a840Eafuk0D8a840Eafuk0D8a8" ++
    "40East80D7x9g0East80D7x9g0East80D8a840Eafuk0D8a840Eafuk0D8a840East80D7x9g0East80D7x9g0East80" ++
    "D6udg0Ec8nw0D6hes0Ec8nw0D6hes0Ec8nw0D6udg0Ec8nw0D6hes0Ec8nw0D6hes0Ec8nw0D6hes0Ec8nw0D6hes0Ec" ++
    "8nw0D6hes0Ec8nw0D6udg0Ec8nw0D6hes0Ec8nw0D6hes0Ec8nw0D6hes0Ec8nw0D6hes0Ec8nw0D6udg0Ec8nw0D6he" ++
    "s0Ec8nw0D6hes0Ec8nw0D6hes0Ec8nw0D6hes0Ec8nw0D6hes0Ec8nw0D6udg0Ec8nw0D6hes0Ec8nw0D6hes0Ec8nw0" ++
    "D6hes0Ec8nw0D6hes0Ec8nw0D6udg0Ec8nw0D6hes0Ec8nw0D6hes0Ec8nw0D6hes0Ec8nw0D6hes0Ec8nw0D6hes0Ec" ++
    "8nw0D|MST7MDT,M3.2.0,M11.1.0"),
  ("America/Iqaluit",
    "0,-14400d,-18000,-14400d,-14400d,-21600,-18000d,-14400d,-18000|-eb6ao0E1l3h80B2dq40Cdvfpg0D9" ++
    "cyk0C9d440D9cyk0C9d440D9cyk0C9d440D9cyk0C9d440D9px80C905g0D9px80C9d440D9cyk0C9d440D9cyk0C9d4" ++
    "40D9cyk0C9d440D9cyk0C9d440D9px80C905g0D9px80C9d440D9cyk0C9d440D9cyk0C9d440D9cyk0C8a840Dafuk0" ++
    "C8a840Dast80C7x9g0Dast80C7x9g0Dast80C8a840Dafuk0C8a840Dafuk0C8a840Dast80C7x9g0Dast80C7x9g0Da" ++
    "st80C8a840Dafuk0C8a840Dafuk0C8a840Dafuk0C8a840Dast80F7xc80Gast80C7x6o0Dast80C8a840Dafuk0C8a8" ++
    "40Dafuk0C8a840Dast80C7x9g0Dast80C7x9g0Dast80C6udg0Dc8nw0C6hes0Dc8nw0C6hes0Dc8nw0C6udg0Dc8nw0" ++
    "C6hes0Dc8nw0C6hes0Dc8nw0C6hes0Dc8nw0C6hes0Dc8nw0C6hes0Dc8nw0C6udg0Dc8nw0C6hes0Dc8nw0C6hes0Dc" ++
    "8nw0C6hes0Dc8nw0C6hes0Dc8nw0C6udg0Dc8nw0C6hes0Dc8nw0C6hes0Dc8nw0C6hes0Dc8nw0C6hes0Dc8nw0C6he" ++
    "s0Dc8nw0C6udg0Dc8nw0C6hes0Dc8nw0C6hes0Dc8nw0C6hes0Dc8nw0C6hes0Dc8nw0C6udg0Dc8nw0C6hes0Dc8nw0" ++
    "C6hes0Dc8nw0C6hes0Dc8nw0C6hes0Dc8nw0C6hes0Dc8nw0C|EST5EDT,M3.2.0,M11.1.0"),
  ("America/Jamaica",
    "-18430,-18430,-18000,-14400d|-15r0v42Bbiv6o0Cwbl182Df4d80C64g40Dclmk0C9d440D9px80C905g0D9px8" ++
    "0C9d440D9cyk0C9d440D9cyk0C9d440D9cyk0C9d440D9cyk0C9d440D9px80C905g0D9px80C|EST5"),
  ("America/Juneau",
    "54139,-32261,-28800,-25200d,-25200d,-25200d,-28800d,-32400,-28800d,-32400|-1hc7qjzBh4yu44Cln" ++
    "707vD1tz2s0E2dyg0Ccawis0F9cyk0C9d440F9cyk0C9d440F9px80C9d440F9cyk0C9d440F9cyk0C3lpg0Ff4d80C6" ++
    "4g40Fclmk0C9d440F9px80C905g0F9px80C9d440F9cyk0C9d440F9cyk0C9d440G9d1c0C9d1c0F9cyk0C9d440F9px" ++
    "80C905g0F9px80H1leo0J7rs80I9cyk0J9d440I9cyk0J9d440I9cyk0J8a840Iafuk0J8a840Iast80J7x9g0Iast80" ++
    "J7x9g0Iast80J8a840Iafuk0J8a840Iafuk0J8a840Iast80J7x9g0Iast80J7x9g0Iast80J8a840Iafuk0J8a840Ia" ++
    "fuk0J8a840Iafuk0J8a840Iast80J7x9g0Iast80J7x9g0Iast80J8a840Iafuk0J8a840Iafuk0J8a840Iast80J7x9" ++
    "g0Iast80J7x9g0Iast80J6udg0Ic8nw0J6hes0Ic8nw0J6hes0Ic8nw0J6udg0Ic8nw0J6hes0Ic8nw0J6hes0Ic8nw0" ++
    "J6hes0Ic8nw0J6hes0Ic8nw0J6hes0Ic8nw0J6udg0Ic8nw0J6hes0Ic8nw0J6hes0Ic8nw0J6hes0Ic8nw0J6hes0Ic" ++
    "8nw0J6udg0Ic8nw0J6hes0Ic8nw0J6hes0Ic8nw0J6hes0Ic8nw0J6hes0Ic8nw0J6hes0Ic8nw0J6udg0Ic8nw0J6he" ++
    "s0Ic8nw0J6hes0Ic8nw0J6hes0Ic8nw0J6hes0Ic8nw0J6udg0Ic8nw0J6hes0Ic8nw0J6hes0Ic8nw0J6hes0Ic8nw0" ++
    "J6hes0Ic8nw0J6hes0Ic8nw0J|AKST9AKDT,M3.2.0,M11.1.0"),
  ("America/Kentucky/Louisville",
    "-20582,-18000d,-21600,-21600,-18000d,-18000d,-18000,-14400d|-18y0m00Dhxltk0Bast80C7x9g0Bast8" ++
    "0Csg5g0B6bp80Ca98o40B7x3w0C6w840E1tz8c0F2dsw0Cast9oB1sw2cC21gis0B7k580Cb5xg0B7x3w0Casys0B7x3" ++
    "w0Casys0B7x3w0Casys0B7x3w0Casys0B7x3w0Cb5xg0B9cyk0C9d440B9cyk0C9d440B9cyk0C9d440B9cyk0C9d440" ++
    "B9px80C9d440B4bh80G3j3xc0H9cyk0G9d440H9cyk0G9d440H9cyk0G9d440H9px80G9d440H9cyk0G9d440H9cyk0G" ++
    "3lpg0Bf4g00G64dc0Hclmk0G9d440H9px80G905g0H9px80G9d440H9cyk0G9d440H9cyk0G9d440H9cyk0G9d440H9c" ++
    "yk0G9d440H9px80G905g0H9px80G9d440H9cyk0G9d440H9cyk0G9d440H9cyk0G8a840Hafuk0G8a840Hast80G7x9g" ++
    "0Hast80G7x9g0Hast80G8a840Hafuk0G8a840Hafuk0G8a840Hast80G7x9g0Hast80G7x9g0Hast80G8a840Hafuk0G" ++
    "8a840Hafuk0G8a840Hafuk0G8a840Hast80G7x9g0Hast80G7x9g0Hast80G8a840Hafuk0G8a840Hafuk0G8a840Has" ++
    "t80G7x9g0Hast80G7x9g0Hast80G6udg0Hc8nw0G6hes0Hc8nw0G6hes0Hc8nw0G6udg0Hc8nw0G6hes0Hc8nw0G6hes" ++
    "0Hc8nw0G6hes0Hc8nw0G6hes0Hc8nw0G6hes0Hc8nw0G6udg0Hc8nw0G6hes0Hc8nw0G6hes0Hc8nw0G6hes0Hc8nw0G" ++
    "6hes0Hc8nw0G6udg0Hc8nw0G6hes0Hc8nw0G6hes0Hc8nw0G6hes0Hc8nw0G6hes0Hc8nw0G6hes0Hc8nw0G6udg0Hc8" ++
    "nw0G6hes0Hc8nw0G6hes0Hc8nw0G6hes0Hc8nw0G6hes0Hc8nw0G6udg0Hc8nw0G6hes0Hc8nw0G6hes0Hc8nw0G6hes" ++
    "0Hc8nw0G6hes0Hc8nw0G6hes0Hc8nw0G|EST5EDT,M3.2.0,M11.1.0"),
  ("America/Kentucky/Monticello",
    "-20364,-18000d,-21600,-18000d,-18000d,-21600,-14400d,-18000|-18y0m00Fhxltk0Bast80C7x9g0Bast8" ++
    "0Cbmtus0D1tz8c0E2dsw0Cbs6g40B9cyk0C9d440B9cyk0C9d440B9cyk0C9d440B9px80C9d440B9cyk0C9d440B9cy" ++
    "k0C3lpg0Bf4d80C64g40Bclmk0C9d440B9px80C905g0B9px80C9d440B9cyk0C9d440B9cyk0C9d440B9cyk0C9d440" ++
    "B9cyk0C9d440B9px80C905g0B9px80C9d440B9cyk0C9d440B9cyk0C9d440B9cyk0C8a840Bafuk0C8a840Bast80C7" ++
    "x9g0Bast80C7x9g0Bast80C8a840Bafuk0C8a840Bafuk0C8a840Bast80C7x9g0Bast80C7x9g0Bast80C8a840Bafu" ++
    "k0C8a840Bafuk0C8a840Bafuk0C8a840Bast80C7x9g0Bast80H7x6o0Gast80H8a840Gafuk0H8a840Gafuk0H8a840" ++
    "Gast80H7x9g0Gast80H7x9g0Gast80H6udg0Gc8nw0H6hes0Gc8nw0H6hes0Gc8nw0H6udg0Gc8nw0H6hes0Gc8nw0H6" ++
    "hes0Gc8nw0H6hes0Gc8nw0H6hes0Gc8nw0H6hes0Gc8nw0H6udg0Gc8nw0H6hes0Gc8nw0H6hes0Gc8nw0H6hes0Gc8n" ++
    "w0H6hes0Gc8nw0H6udg0Gc8nw0H6hes0Gc8nw0H6hes0Gc8nw0H6hes0Gc8nw0H6hes0Gc8nw0H6hes0Gc8nw0H6udg0" ++
    "Gc8nw0H6hes0Gc8nw0H6hes0Gc8nw0H6hes0Gc8nw0H6hes0Gc8nw0H6udg0Gc8nw0H6hes0Gc8nw0H6hes0Gc8nw0H6" ++
    "hes0Gc8nw0H6hes0Gc8nw0H6hes0Gc8nw0H|EST5EDT,M3.2.0,M11.1.0"),
  ("America/La_Paz",
    "-16356,-16356,-12756d,-14400|-15r0wpoBlt1400C84ik0D1j8fb57D|<-04>4"),
  ("America/Lima",
    "-18492,-18516,-14400d,-18000|-15r0v2cB9ov9coDfcxjloC4ml80D93us0C9cyk0D9d440C9cyk0Dnw16s0C4ml" ++
    "80De5c40C4ml80D1fr1g0C4ml80D1yiys0C4ml80DmuzpvjD|<-05>5"),
  ("America/Los_Angeles",
    "-28378,-25200d,-28800,-25200d,-25200d,-28800|-18y0gg0Fhxltk0Bast80C7x9g0Bast80Cbmtus0D1tz2s0" ++
    "E2dyg0C1a3c5oBf2iicCowao0B7k800Cb5uo0B7x6o0Casw00B7x6o0Casw00B7x6o0Casw00B7x6o0Casw00B7x6o0C" ++
    "b5uo0B7x6o0Casw00B7x6o0Casw00B7x6o0Casw00B7x6o0Casw00B7x6o0Cb5uo0B7k800Cb5uo0B9d1c0C9d1c0B9d" ++
    "1c0C9d1c0B9d1c0C9d1c0B9q000C902o0B9q000C9d440B9cyk0C9d440B9cyk0C9d440B9cyk0C9d440B9cyk0C9d44" ++
    "0B9px80C9d440B9cyk0C9d440B9cyk0C3lpg0Bf4d80C64g40Bclmk0C9d440B9px80C905g0B9px80C9d440B9cyk0C" ++
    "9d440B9cyk0C9d440B9cyk0C9d440B9cyk0C9d440B9px80C905g0B9px80C9d440B9cyk0C9d440B9cyk0C9d440B9c" ++
    "yk0C8a840Bafuk0C8a840Bast80C7x9g0Bast80C7x9g0Bast80C8a840Bafuk0C8a840Bafuk0C8a840Bast80C7x9g" ++
    "0Bast80C7x9g0Bast80C8a840Bafuk0C8a840Bafuk0C8a840Bafuk0C8a840Bast80C7x9g0Bast80C7x9g0Bast80C" ++
    "8a840Bafuk0C8a840Bafuk0C8a840Bast80C7x9g0Bast80C7x9g0Bast80C6udg0Bc8nw0C6hes0Bc8nw0C6hes0Bc8" ++
    "nw0C6udg0Bc8nw0C6hes0Bc8nw0C6hes0Bc8nw0C6hes0Bc8nw0C6hes0Bc8nw0C6hes0Bc8nw0C6udg0Bc8nw0C6hes" ++
    "0Bc8nw0C6hes0Bc8nw0C6hes0Bc8nw0C6hes0Bc8nw0C6udg0Bc8nw0C6hes0Bc8nw0C6hes0Bc8nw0C6hes0Bc8nw0C" ++
    "6hes0Bc8nw0C6hes0Bc8nw0C6udg0Bc8nw0C6hes0Bc8nw0C6hes0Bc8nw0C6hes0Bc8nw0C6hes0Bc8nw0C6udg0Bc8" ++
    "nw0C6hes0Bc8nw0C6hes0Bc8nw0C6hes0Bc8nw0C6hes0Bc8nw0C6hes0Bc8nw0C|PST8PDT,M3.2.0,M11.1.0"),
  ("America/Maceio",
    "-8572,-7200d,-10800|-t85ldwC99kaxwB9a9c0C9io40B99980C8p65g0B6zuo0Cbs2o0B67zw0Ccjxg0B69uk0Ccj" ++
    "xg0B4ml80C5mf440B49mk0Chaas0B316k0Ccls40B4ml80Ccls40B66580Ccls40B67zw0C981s40B6u7w0Cbiw40B5r" ++
    "bw0Cd0lg0B5ed80Ccyqs0B5ed80Cdbpg0B64ak0C2yl440B64ak0C1wf1g0B7k580Cbiw40Bpuk0Cid6s0B6h980Ciqw" ++
    "e3jC|<-03>3"),
  ("America/Managua",
    "-20708,-20712,-21600,-18000,-18000d,-21600|-15r0tcsBn7jmo4Cka1i0oDxqqk0C24p6s0E53980Cdmtg0E5" ++
    "3980C60itw0Ddq240C53es0D235h80C4beis0E8zzw0Cat4c0E7x140C|CST6"),
  ("America/Manaus",
    "-14404,-10800d,-14400|-t85gvwC99k97wB9a9c0C9io40B99980C8p65g0B6zuo0Cbs2o0B67zw0Ccjxg0B69uk0C" ++
    "cjxg0B4ml80C5mf440B49mk0Chaas0B316k0Ccls40B4ml80Ccls40B66580Ccls40B67zw0C981s40B6u7w0Cbiw40B" ++
    "5rbw0Cd0lg0B5ed80C2yy2s0B6h980Cmx1vbjC|<-04>4"),
  ("America/Martinique",
    "-14660,-14660,-14400,-10800d|-15r0y0sBb4o2o0Czz5x4sD8zzw0C|AST4"),
  ("America/Matamoros",
    "-23400,-21600,-18000d,-21600|-p1u7c0Bykt480Cast80D3vppg0Cafuk0D8a840Cafuk0D8a840Cafuk0D8a840" ++
    "Cast80D7x9g0Cast80D9q2s0C7k580D9q2s0Cafuk0D8a840Cafuk0D8a840Cast80D7x9g0Cast80D7x9g0Cast80D7" ++
    "x9g0Cast80D8a840Cafuk0D8a840Cafuk0D77c40Cc8nw0D6hes0Cc8nw0D6hes0Cc8nw0D6hes0Cc8nw0D6hes0Cc8n" ++
    "w0D6hes0Cc8nw0D6udg0Cc8nw0D6hes0Cc8nw0D6hes0Cc8nw0D6hes0Cc8nw0D6hes0Cc8nw0D6udg0Cc8nw0D6hes0" ++
    "Cc8nw0D6hes0Cc8nw0D6hes0Cc8nw0D6hes0Cc8nw0D6hes0Cc8nw0D6udg0Cc8nw0D6hes0Cc8nw0D6hes0Cc8nw0D6" ++
    "hes0Cc8nw0D6hes0Cc8nw0D6udg0Cc8nw0D6hes0Cc8nw0D6hes0Cc8nw0D6hes0Cc8nw0D6hes0Cc8nw0D6hes0Cc8n" ++
    "w0D|CST6CDT,M3.2.0,M11.1.0"),
  ("America/Mazatlan",
    "-25540,-25200,-21600,-21600d,-25200|-p1u4k0B2u5s00C1si580E8jhg0D7x3w0E9eys0C591h80Es5qoc0Daf" ++
    "uk0E8a840Dafuk0E8a840Dafuk0E8a840Dast80E7x9g0Dast80E9q2s0D7k580E9q2s0Dafuk0E8a840Dafuk0E8a84" ++
    "0Dast80E7x9g0Dast80E7x9g0Dast80E7x9g0Dast80E8a840Dafuk0E8a840Dafuk0E8a840Dast80E7x9g0Dast80E" ++
    "7x9g0Dast80E8a840Dafuk0E8a840Dafuk0E8a840Dafuk0E8a840Dast80E7x9g0Dast80E7x9g0Dast80E8a840Daf" ++
    "uk0E8a840Dafuk0E8a840Dast80E7x9g0Dast80E|MST7"),
  ("America/Menominee",
    "-21027,-18000d,-21600,-18000d,-18000d,-18000,-21600|-17zjvrxCgz53bxBast80C7x9g0Bast80Cbmtus0" ++
    "D1tz8c0E2dsw0Casys0B7x3w0Ca7n9g0B9px80C1at9g0F2396k0B9d1c0C3lpg0Bf4d80C64g40Bclmk0C9d440B9px" ++
    "80C905g0B9px80C9d440B9cyk0C9d440B9cyk0C9d440B9cyk0C9d440B9cyk0C9d440B9px80C905g0B9px80C9d440" ++
    "B9cyk0C9d440B9cyk0C9d440B9cyk0C8a840Bafuk0C8a840Bast80C7x9g0Bast80C7x9g0Bast80C8a840Bafuk0C8" ++
    "a840Bafuk0C8a840Bast80C7x9g0Bast80C7x9g0Bast80C8a840Bafuk0C8a840Bafuk0C8a840Bafuk0C8a840Bast" ++
    "80C7x9g0Bast80C7x9g0Bast80C8a840Bafuk0C8a840Bafuk0C8a840Bast80C7x9g0Bast80C7x9g0Bast80C6udg0" ++
    "Bc8nw0C6hes0Bc8nw0C6hes0Bc8nw0C6udg0Bc8nw0C6hes0Bc8nw0C6hes0Bc8nw0C6hes0Bc8nw0C6hes0Bc8nw0C6" ++
    "hes0Bc8nw0C6udg0Bc8nw0C6hes0Bc8nw0C6hes0Bc8nw0C6hes0Bc8nw0C6hes0Bc8nw0C6udg0Bc8nw0C6hes0Bc8n" ++
    "w0C6hes0Bc8nw0C6hes0Bc8nw0C6hes0Bc8nw0C6hes0Bc8nw0C6udg0Bc8nw0C6hes0Bc8nw0C6hes0Bc8nw0C6hes0" ++
    "Bc8nw0C6hes0Bc8nw0C6udg0Bc8nw0C6hes0Bc8nw0C6hes0Bc8nw0C6hes0Bc8nw0C6hes0Bc8nw0C6hes0Bc8nw0C|" ++
    "CST6CDT,M3.2.0,M11.1.0"),
  ("America/Merida",
    "-21508,-21600,-18000,-18000d,-21600|-p1u7c0Bvb0dk0Cfzuk0E70bes0Dafuk0E8a840Dafuk0E8a840Dafuk" ++
    "0E8a840Dast80E7x9g0Dast80E9q2s0D7k580E9q2s0Dafuk0E8a840Dafuk0E8a840Dast80E7x9g0Dast80E7x9g0D" ++
    "ast80E7x9g0Dast80E8a840Dafuk0E8a840Dafuk0E8a840Dast80E7x9g0Dast80E7x9g0Dast80E8a840Dafuk0E8a" ++
    "840Dafuk0E8a840Dafuk0E8a840Dast80E7x9g0Dast80E7x9g0Dast80E8a840Dafuk0E8a840Dafuk0E8a840Dast8" ++
    "0E7x9g0Dast80E|CST6"),
  ("America/Metlakatla",
    "54822,-31578,-28800,-25200d,-25200d,-25200d,-32400,-28800d|-1hc7qjzBh4ytl5Cln70quD1tz2s0E2dy" ++
    "g0Ccawis0F9cyk0C9d440F9cyk0C9d440F9px80C9d440F9cyk0C9d440F9cyk0C3lpg0Ff4d80C64g40Fclmk0C9d44" ++
    "0F9px80C905g0F9px80C9d440F9cyk0C9d440F9cyk0C9d440F9cyk0C9d440F9cyk0C9d440F9px80C905g0F9px80C" ++
    "gpc840G6udg0Hc8nw0G6hes0Hc8nw0G6hes0Hc8nw0C3ylc0G2itg0Hc8nw0G6hes0Hc8nw0G6udg0Hc8nw0G6hes0Hc" ++
    "8nw0G6hes0Hc8nw0G6hes0Hc8nw0G6hes0Hc8nw0G6hes0Hc8nw0G6udg0Hc8nw0G6hes0Hc8nw0G6hes0Hc8nw0G6he" ++
    "s0Hc8nw0G6hes0Hc8nw0G6udg0Hc8nw0G6hes0Hc8nw0G6hes0Hc8nw0G6hes0Hc8nw0G6hes0Hc8nw0G6hes0Hc8nw0" ++
    "G|AKST9AKDT,M3.2.0,M11.1.0"),
  ("America/Mexico_City",
    "-23796,-25200,-21600,-21600d,-25200,-18000d,-18000d,-21600|-p1u4k0B2u5s00C1si580E8jhg0D7x3w0" ++
    "E9eys0C3knek0F776k0Crf440F5t6k0C1evk40G71mk0C30p1g0F8n180Cnufxo0Fafuk0C8a840Fafuk0C8a840Fafu" ++
    "k0C8a840Fast80C7x9g0Fast80C9q2s0F7k580C9q2s0Fafuk0C8a840Fafuk0C8a840Fast80C7x9g0Fast80C7x9g0" ++
    "Fast80C7x9g0Fast80C8a840Fafuk0C8a840Fafuk0C8a840Fast80C7x9g0Fast80C7x9g0Fast80C8a840Fafuk0C8" ++
    "a840Fafuk0C8a840Fafuk0C8a840Fast80C7x9g0Fast80C7x9g0Fast80C8a840Fafuk0C8a840Fafuk0C8a840Fast" ++
    "80C7x9g0Fast80C|CST6"),
  ("America/Miquelon",
    "-13480,-14400,-10800,-7200d|-uk1k9kBzy4wpkC3m59g0Dafuk0C8a840Dast80C7x9g0Dast80C7x9g0Dast80C" ++
    "8a840Dafuk0C8a840Dafuk0C8a840Dast80C7x9g0Dast80C7x9g0Dast80C8a840Dafuk0C8a840Dafuk0C8a840Daf" ++
    "uk0C8a840Dast80C7x9g0Dast80C7x9g0Dast80C8a840Dafuk0C8a840Dafuk0C8a840Dast80C7x9g0Dast80C7x9g" ++
    "0Dast80C6udg0Dc8nw0C6hes0Dc8nw0C6hes0Dc8nw0C6udg0Dc8nw0C6hes0Dc8nw0C6hes0Dc8nw0C6hes0Dc8nw0C" ++
    "6hes0Dc8nw0C6hes0Dc8nw0C6udg0Dc8nw0C6hes0Dc8nw0C6hes0Dc8nw0C6hes0Dc8nw0C6hes0Dc8nw0C6udg0Dc8" ++
    "nw0C6hes0Dc8nw0C6hes0Dc8nw0C6hes0Dc8nw0C6hes0Dc8nw0C6hes0Dc8nw0C6udg0Dc8nw0C6hes0Dc8nw0C6hes" ++
    "0Dc8nw0C6hes0Dc8nw0C6hes0Dc8nw0C6udg0Dc8nw0C6hes0Dc8nw0C6hes0Dc8nw0C6hes0Dc8nw0C6hes0Dc8nw0C" ++
    "6hes0Dc8nw0C428jjC|<-03>3<-02>,M3.2.0,M11.1.0"),
  ("America/Moncton",
    "-15548,-18000,-10800d,-14400,-10800d,-10800d|-18wys04B9nu9w4D89fhg0Ca2vw0D7mqqo0C4ofw0De1ms0" ++
    "C4ofw0De1ms0C4ofw0De1ms0C4ofw0De1ms0C4ofw0De1ms0C4ofw0Ddmtg0C64ak0Dcao40C6fek0Dbkqs0C7iak0D6" ++
    "y5k0E1tzdw0F2dnc0Dasys0C7x3w0Dasys0C7x3w0Dasys0C7x3w0Dasys0C7x3w0Db5xg0C7k580Db5xg0C7x3w0Das" ++
    "ys0C7x3w0Dasys0C7x3w0Dasys0C7x3w0Dasys0C7x3w0Db5xg0C7x3w0Dasys0C9cyk0D9d440C9cyk0D9d440C9cyk" ++
    "0D9d440C9px80D9d440C9cyk0D9d440C9cyk0D9d440C9cyk0D9d440C9cyk0D9d440C9px80D905g0C9px80D9d440C" ++
    "9cyk0D9d440C9cyk0D9d440C9cyk0D9d440C9cyk0D9d440C9px80D9d440C9cyk0Ds36s0C9cyk0D9d440C9cyk0D9d" ++
    "440C9px80D905g0C9px80D9d440C9cyk0D9d440C9cyk0D9d440C9cyk0D9d440C9cyk0D9d440C9px80D905g0C9px8" ++
    "0D9d440C9cyk0D9d440C9cyk0D9d440C9cyk0D8a840Cafuk0D8a840Cast80D7x9g0Cast80D7x9g0Cast80D8a840C" ++
    "afuk0D8a840Cafuk0D8a2loCast80D7x9g0Cast80D7x9g0Cast80D8a840Cafuk0D8a840Cafuk0D8a840Cafuk0D8a" ++
    "840Cast80D7x9g0Cast80D7x9g0Cast80D8a840Cafuk0D8a840Cafuk0D8a840Cast80D7x9g0Cast80D7x9g0Cast8" ++
    "0D6uiycCc8nw0D6hes0Cc8nw0D6hes0Cc8nw0D6udg0Cc8nw0D6hes0Cc8nw0D6hes0Cc8nw0D6hes0Cc8nw0D6hes0C" ++
    "c8nw0D6hes0Cc8nw0D6udg0Cc8nw0D6hes0Cc8nw0D6hes0Cc8nw0D6hes0Cc8nw0D6hes0Cc8nw0D6udg0Cc8nw0D6h" ++
    "es0Cc8nw0D6hes0Cc8nw0D6hes0Cc8nw0D6hes0Cc8nw0D6hes0Cc8nw0D6udg0Cc8nw0D6hes0Cc8nw0D6hes0Cc8nw" ++
    "0D6hes0Cc8nw0D6hes0Cc8nw0D6udg0Cc8nw0D6hes0Cc8nw0D6hes0Cc8nw0D6hes0Cc8nw0D6hes0Cc8nw0D6hes0C" ++
    "c8nw0D|AST4ADT,M3.2.0,M11.1.0"),
  ("America/Monterrey",
    "-24076,-25200,-21600,-21600d,-25200,-18000d,-21600|-p1u7c0B2u5us0C1si580E8jhg0D7x3w0E9eys0Ct" ++
    "89k40Fast80C3vppg0Fafuk0C8a840Fafuk0C8a840Fafuk0C8a840Fast80C7x9g0Fast80C9q2s0F7k580C9q2s0Fa" ++
    "fuk0C8a840Fafuk0C8a840Fast80C7x9g0Fast80C7x9g0Fast80C7x9g0Fast80C8a840Fafuk0C8a840Fafuk0C8a8" ++
    "40Fast80C7x9g0Fast80C7x9g0Fast80C8a840Fafuk0C8a840Fafuk0C8a840Fafuk0C8a840Fast80C7x9g0Fast80" ++
    "C7x9g0Fast80C8a840Fafuk0C8a840Fafuk0C8a840Fast80C7x9g0Fast80C|CST6"),
  ("America/Montevideo",
    "-13491,-13491,-14400,-12600,-10800d,-10800,-9000d,-7200d,-5400d,-7200d|-w4mll9B67elc0C1s74p9" ++
    "E9et80D9exe0E9czy0D9exe0E9czy0D3ydyq0E7x5a0Dasxe0E7x5a0Dasxe0E7x5a0Dasxe0E7x5a0Db5w20E7k6m0D" ++
    "b5w20E7k6m0D9q1e0E9czy0Dasxe0E7x5a0D6do20Eppvy0G4mmm0F8g9qq0G901a0F38pe0H2inw0F2nf9g0H8zzw0F" ++
    "1e3s40G9o3y0Fq8he0H2kik0Fyxhg0H4bh80Fs36s0I2vl60G905g0F5rg20H51ek0Fweqs0H3yik0Fe1ms0H4ofw0Fe" ++
    "rk40H3yik0F2vs40Hgk7w0F41iys0H3wnw0Ferk40H4bh80Fc8tg0H64ak0Fc8tg0H6u7w0Fc8tg0H6h980Fbvus0H6u" ++
    "7w0F614qs0H9q2s0Fa31g0H7x3w0Fag040H8a2k0Fasys0H7x3w0Fasys0H7x3w0Fasys0H8a2k0Fag040H8a2k0Fag0" ++
    "40H8a2k0Fasys0H7x3w0Fasys0H7x3w0Fasys0H7x3w0FbxogjjF|<-03>3"),
  ("America/Montserrat",
    "-14932,-14400|-uj7wfkB|AST4"),
  ("America/Nassau",
    "-18570,-14400d,-18000,-14400d,-14400d|-u6m4c6Cfqrow6B1e5h80C1lhg0Ba0nc0D3awk0C9o00c0E9cyk0C9" ++
    "d440E9px80C905g0E9px80C9d440E9cyk0C9d440E9cyk0C9d440E9cyk0C9d440E9cyk0C9d440E9px80C9d440E9cy" ++
    "k0C9d440E9cyk0C9d440E9cyk0C9d440E9cyk0C9d440E9px80C905g0E9px80C9d440E9cyk0C9d440E9cyk0C9d440" ++
    "E9cyk0C9d440E9cyk0C9d440E9px80C905g0E9px80C9d440E9cyk0C9d440E9cyk0C9d440E9cyk0C8a840Eafuk0C8" ++
    "a840East80C7x9g0East80C7x9g0East80C8a840Eafuk0C8a840Eafuk0C8a840East80C7x9g0East80C7x9g0East" ++
    "80C8a840Eafuk0C8a840Eafuk0C8a840Eafuk0C8a840East80C7x9g0East80C7x9g0East80C8a840Eafuk0C8a840" ++
    "Eafuk0C8a840East80C7x9g0East80C7x9g0East80C6udg0Ec8nw0C6hes0Ec8nw0C6hes0Ec8nw0C6udg0Ec8nw0C6" ++
    "hes0Ec8nw0C6hes0Ec8nw0C6hes0Ec8nw0C6hes0Ec8nw0C6hes0Ec8nw0C6udg0Ec8nw0C6hes0Ec8nw0C6hes0Ec8n" ++
    "w0C6hes0Ec8nw0C6hes0Ec8nw0C6udg0Ec8nw0C6hes0Ec8nw0C6hes0Ec8nw0C6hes0Ec8nw0C6hes0Ec8nw0C6hes0" ++
    "Ec8nw0C6udg0Ec8nw0C6hes0Ec8nw0C6hes0Ec8nw0C6hes0Ec8nw0C6hes0Ec8nw0C6udg0Ec8nw0C6hes0Ec8nw0C6" ++
    "hes0Ec8nw0C6hes0Ec8nw0C6hes0Ec8nw0C6hes0Ec8nw0C|EST5EDT,M3.2.0,M11.1.0"),
  ("America/New_York",
    "-17762,-14400d,-18000,-18000,-14400d,-14400d|-18y0os0Dhxltk0Bast80C7x9g0Bast80C7x9g0Bb5rw0C9" ++
    "05g0B7x3w0Cb5xg0B7k580Cb5xg0B7x3w0Casys0B7x3w0Casys0B7x3w0Casys0B7x3w0Casys0B7x3w0Cb5xg0B7x3" ++
    "w0Casys0B7x3w0Casys0B7x3w0Casys0B7x3w0Casys0B7x3w0Cb5xg0B7k580Cb5xg0B7x3w0Casys0B7x3w0Casys0" ++
    "B7x3w0Casys0B7x3w0Casys0B7x3w0Cb5xg0B7k580Cb5xg0B7x3w0Casys0B7x3w0C6w840E1tzb40F2dq40Casys0B" ++
    "7x3w0Casys0B7x3w0Casys0B7x3w0Casys0B7x3w0Cb5xg0B7k580Cb5xg0B7x3w0Casys0B7x3w0Casys0B7x3w0Cas" ++
    "ys0B7x3w0Casys0B9px80C9d440B9cyk0C9d440B9cyk0C9d440B9cyk0C9d440B9cyk0C9d440B9px80C9d440B9cyk" ++
    "0C9d440B9cyk0C9d440B9cyk0C9d440B9cyk0C9d440B9px80C905g0B9px80C9d440B9cyk0C9d440B9cyk0C9d440B" ++
    "9cyk0C9d440B9cyk0C9d440B9px80C9d440B9cyk0C9d440B9cyk0C3lpg0Bf4d80C64g40Bclmk0C9d440B9px80C90" ++
    "5g0B9px80C9d440B9cyk0C9d440B9cyk0C9d440B9cyk0C9d440B9cyk0C9d440B9px80C905g0B9px80C9d440B9cyk" ++
    "0C9d440B9cyk0C9d440B9cyk0C8a840Bafuk0C8a840Bast80C7x9g0Bast80C7x9g0Bast80C8a840Bafuk0C8a840B" ++
    "afuk0C8a840Bast80C7x9g0Bast80C7x9g0Bast80C8a840Bafuk0C8a840Bafuk0C8a840Bafuk0C8a840Bast80C7x" ++
    "9g0Bast80C7x9g0Bast80C8a840Bafuk0C8a840Bafuk0C8a840Bast80C7x9g0Bast80C7x9g0Bast80C6udg0Bc8nw" ++
    "0C6hes0Bc8nw0C6hes0Bc8nw0C6udg0Bc8nw0C6hes0Bc8nw0C6hes0Bc8nw0C6hes0Bc8nw0C6hes0Bc8nw0C6hes0B" ++
    "c8nw0C6udg0Bc8nw0C6hes0Bc8nw0C6hes0Bc8nw0C6hes0Bc8nw0C6hes0Bc8nw0C6udg0Bc8nw0C6hes0Bc8nw0C6h" ++
    "es0Bc8nw0C6hes0Bc8nw0C6hes0Bc8nw0C6hes0Bc8nw0C6udg0Bc8nw0C6hes0Bc8nw0C6hes0Bc8nw0C6hes0Bc8nw" ++
    "0C6hes0Bc8nw0C6udg0Bc8nw0C6hes0Bc8nw0C6hes0Bc8nw0C6hes0Bc8nw0C6hes0Bc8nw0C6hes0Bc8nw0C|EST5E" ++
    "DT,M3.2.0,M11.1.0"),
  ("America/Nome",
    "46702,-39698,-39600,-36000d,-36000d,-39600,-36000d,-32400,-28800d,-32400|-1hc7qjzBh4yzupCln7" ++
    "2taD1tyug0E2e6s0Cb7yik0F12y080G9cyk0F9d440G9cyk0F9d440G9px80F9d440G9cyk0F9d440G9cyk0F3lpg0Gf" ++
    "4d80F64g40Gclmk0F9d440G9px80F905g0G9px80F9d440G9cyk0F9d440G9cyk0F9d440G9cyk0F9d440G9cyk0F9d4" ++
    "40G9px80F905g0G9px80H1l6c0J7rs80I9cyk0J9d440I9cyk0J9d440I9cyk0J8a840Iafuk0J8a840Iast80J7x9g0" ++
    "Iast80J7x9g0Iast80J8a840Iafuk0J8a840Iafuk0J8a840Iast80J7x9g0Iast80J7x9g0Iast80J8a840Iafuk0J8" ++
    "a840Iafuk0J8a840Iafuk0J8a840Iast80J7x9g0Iast80J7x9g0Iast80J8a840Iafuk0J8a840Iafuk0J8a840Iast" ++
    "80J7x9g0Iast80J7x9g0Iast80J6udg0Ic8nw0J6hes0Ic8nw0J6hes0Ic8nw0J6udg0Ic8nw0J6hes0Ic8nw0J6hes0" ++
    "Ic8nw0J6hes0Ic8nw0J6hes0Ic8nw0J6hes0Ic8nw0J6udg0Ic8nw0J6hes0Ic8nw0J6hes0Ic8nw0J6hes0Ic8nw0J6" ++
    "hes0Ic8nw0J6udg0Ic8nw0J6hes0Ic8nw0J6hes0Ic8nw0J6hes0Ic8nw0J6hes0Ic8nw0J6hes0Ic8nw0J6udg0Ic8n" ++
    "w0J6hes0Ic8nw0J6hes0Ic8nw0J6hes0Ic8nw0J6hes0Ic8nw0J6udg0Ic8nw0J6hes0Ic8nw0J6hes0Ic8nw0J6hes0" ++
    "Ic8nw0J6hes0Ic8nw0J6hes0Ic8nw0J|AKST9AKDT,M3.2.0,M11.1.0"),
  ("America/Noronha",
    "-7780,-3600d,-7200|-t85lzwC99k8rwB9a9c0C9io40B99980C8p65g0B6zuo0Cbs2o0B67zw0Ccjxg0B69uk0Ccjx" ++
    "g0B4ml80C5mf440B49mk0Chaas0B316k0Ccls40B4ml80Ccls40B66580Ccls40B67zw0C981s40B6u7w0Cbiw40B5rb" ++
    "w0Cd0lg0B5ed80Ccyqs0B5ed80Cdbpg0B64ak0C514g40B7k580Cbiw40Bcvw0Ciq5g0B6h980CiqwgvjC|<-02>2"),
  ("America/North_Dakota/Beulah",
    "-24427,-21600d,-25200,-21600d,-21600d,-25200,-18000d,-21600|-18y0j80Fhxltk0Bast80C7x9g0Bast8" ++
    "0Cbmtus0D1tz5k0E2dvo0Cb9gdg0B9cyk0C9d440B9cyk0C9d440B9cyk0C9d440B9cyk0C9d440B9px80C9d440B9cy" ++
    "k0C9d440B9cyk0C3lpg0Bf4d80C64g40Bclmk0C9d440B9px80C905g0B9px80C9d440B9cyk0C9d440B9cyk0C9d440" ++
    "B9cyk0C9d440B9cyk0C9d440B9px80C905g0B9px80C9d440B9cyk0C9d440B9cyk0C9d440B9cyk0C8a840Bafuk0C8" ++
    "a840Bast80C7x9g0Bast80C7x9g0Bast80C8a840Bafuk0C8a840Bafuk0C8a840Bast80C7x9g0Bast80C7x9g0Bast" ++
    "80C8a840Bafuk0C8a840Bafuk0C8a840Bafuk0C8a840Bast80C7x9g0Bast80C7x9g0Bast80C8a840Bafuk0C8a840" ++
    "Bafuk0C8a840Bast80C7x9g0Bast80C7x9g0Bast80C6udg0Bc8nw0C6hes0Bc8nw0C6hes0Bc8nw0C6udg0Bc8nw0H6" ++
    "hc00Gc8nw0H6hes0Gc8nw0H6hes0Gc8nw0H6hes0Gc8nw0H6hes0Gc8nw0H6udg0Gc8nw0H6hes0Gc8nw0H6hes0Gc8n" ++
    "w0H6hes0Gc8nw0H6hes0Gc8nw0H6udg0Gc8nw0H6hes0Gc8nw0H6hes0Gc8nw0H6hes0Gc8nw0H6hes0Gc8nw0H6hes0" ++
    "Gc8nw0H6udg0Gc8nw0H6hes0Gc8nw0H6hes0Gc8nw0H6hes0Gc8nw0H6hes0Gc8nw0H6udg0Gc8nw0H6hes0Gc8nw0H6" ++
    "hes0Gc8nw0H6hes0Gc8nw0H6hes0Gc8nw0H6hes0Gc8nw0H|CST6CDT,M3.2.0,M11.1.0"),
  ("America/North_Dakota/Center",
    "-24312,-21600d,-25200,-21600d,-21600d,-25200,-18000d,-21600|-18y0j80Fhxltk0Bast80C7x9g0Bast8" ++
    "0Cbmtus0D1tz5k0E2dvo0Cb9gdg0B9cyk0C9d440B9cyk0C9d440B9cyk0C9d440B9cyk0C9d440B9px80C9d440B9cy" ++
    "k0C9d440B9cyk0C3lpg0Bf4d80C64g40Bclmk0C9d440B9px80C905g0B9px80C9d440B9cyk0C9d440B9cyk0C9d440" ++
    "B9cyk0C9d440B9cyk0C9d440B9px80C905g0B9px80C9d440B9cyk0C9d440B9cyk0C9d440B9cyk0C8a840Bafuk0C8" ++
    "a840Bast80C7x9g0Bast80C7x9g0Bast80C8a840Bafuk0C8a840Bafuk0H8a5c0Gast80H7x9g0Gast80H7x9g0Gast" ++
    "80H8a840Gafuk0H8a840Gafuk0H8a840Gafuk0H8a840Gast80H7x9g0Gast80H7x9g0Gast80H8a840Gafuk0H8a840" ++
    "Gafuk0H8a840Gast80H7x9g0Gast80H7x9g0Gast80H6udg0Gc8nw0H6hes0Gc8nw0H6hes0Gc8nw0H6udg0Gc8nw0H6" ++
    "hes0Gc8nw0H6hes0Gc8nw0H6hes0Gc8nw0H6hes0Gc8nw0H6hes0Gc8nw0H6udg0Gc8nw0H6hes0Gc8nw0H6hes0Gc8n" ++
    "w0H6hes0Gc8nw0H6hes0Gc8nw0H6udg0Gc8nw0H6hes0Gc8nw0H6hes0Gc8nw0H6hes0Gc8nw0H6hes0Gc8nw0H6hes0" ++
    "Gc8nw0H6udg0Gc8nw0H6hes0Gc8nw0H6hes0Gc8nw0H6hes0Gc8nw0H6hes0Gc8nw0H6udg0Gc8nw0H6hes0Gc8nw0H6" ++
    "hes0Gc8nw0H6hes0Gc8nw0H6hes0Gc8nw0H6hes0Gc8nw0H|CST6CDT,M3.2.0,M11.1.0"),
  ("America/North_Dakota/New_Salem",
    "-24339,-21600d,-25200,-21600d,-21600d,-25200,-18000d,-21600|-18y0j80Fhxltk0Bast80C7x9g0Bast8" ++
    "0Cbmtus0D1tz5k0E2dvo0Cb9gdg0B9cyk0C9d440B9cyk0C9d440B9cyk0C9d440B9cyk0C9d440B9px80C9d440B9cy" ++
    "k0C9d440B9cyk0C3lpg0Bf4d80C64g40Bclmk0C9d440B9px80C905g0B9px80C9d440B9cyk0C9d440B9cyk0C9d440" ++
    "B9cyk0C9d440B9cyk0C9d440B9px80C905g0B9px80C9d440B9cyk0C9d440B9cyk0C9d440B9cyk0C8a840Bafuk0C8" ++
    "a840Bast80C7x9g0Bast80C7x9g0Bast80C8a840Bafuk0C8a840Bafuk0C8a840Bast80C7x9g0Bast80C7x9g0Bast" ++
    "80C8a840Bafuk0C8a840Bafuk0C8a840Bafuk0C8a840Bast80C7x9g0Bast80C7x9g0Bast80C8a840Bafuk0C8a840" ++
    "Bafuk0H8a5c0Gast80H7x9g0Gast80H7x9g0Gast80H6udg0Gc8nw0H6hes0Gc8nw0H6hes0Gc8nw0H6udg0Gc8nw0H6" ++
    "hes0Gc8nw0H6hes0Gc8nw0H6hes0Gc8nw0H6hes0Gc8nw0H6hes0Gc8nw0H6udg0Gc8nw0H6hes0Gc8nw0H6hes0Gc8n" ++
    "w0H6hes0Gc8nw0H6hes0Gc8nw0H6udg0Gc8nw0H6hes0Gc8nw0H6hes0Gc8nw0H6hes0Gc8nw0H6hes0Gc8nw0H6hes0" ++
    "Gc8nw0H6udg0Gc8nw0H6hes0Gc8nw0H6hes0Gc8nw0H6hes0Gc8nw0H6hes0Gc8nw0H6udg0Gc8nw0H6hes0Gc8nw0H6" ++
    "hes0Gc8nw0H6hes0Gc8nw0H6hes0Gc8nw0H6hes0Gc8nw0H|CST6CDT,M3.2.0,M11.1.0"),
  ("America/Nuuk",
    "-12416,-10800,-10800,-7200d,-7200d,-7200,-3600d|-rvumf4Bx8nqz4E8zrk0C9d1c0D9d1c0C9d1c0D9d1c0" ++
    "C9d1c0D9d1c0C9d1c0D9q000C9d1c0D9d1c0C9d1c0D9d1c0C9d1c0D9d1c0C9d1c0D9d1c0C9d1c0D9d1c0C9d1c0D9" ++
    "q000C9d1c0D9d1c0C9d1c0D9d1c0C9d1c0D9d1c0C9d1c0D9d1c0C9d1c0D9d1c0C9q000Dasw00C7x6o0Dasw00C7x6" ++
    "o0Dasw00C7x6o0Db5uo0C7k800Db5uo0C7k800Db5uo0C7x6o0Dasw00C7x6o0Dasw00C7x6o0Db5uo0C7k800Db5uo0" ++
    "C7k800Db5uo0C7k800Db5uo0C7x6o0Dasw00C7x6o0Dasw00C7x6o0Db5uo0C7k800Db5uo0C7k800Db5uo0C7x6o0Da" ++
    "sw00C7x6o0Dasw00C7x6o0Dasw00C7x6o0Db5uo0C7k800Db5uo0C7k800Db5uo0C7x6o0Dasw00C7x6o0Dasw00C7x6" ++
    "o0Db5uo0C7k800Db5uo0C7k800Fj31c0Gasw00F7x6o0Gasw00F7x6o0Gasw00F7x6o0Gb5uo0F7k800Gb5uo0F7k800" ++
    "Gb5uo0F7x6o0Gasw00F7x6o0Gasw00F7x6o0Gb5uo0F7k800Gb5uo0F7k800Gb5uo0F7k800Gb5uo0F7x6o0Gasw00F7" ++
    "x6o0Gasw00F4ffjjF|<-02>2<-01>,M3.5.0/-1,M10.5.0/0"),
  ("America/Ojinaga",
    "-25060,-25200,-21600,-21600d,-25200,-18000d,-21600|-p1u4k0B2u5s00C1si580E8jhg0D7x3w0E9eys0Cx" ++
    "es2s0Fafuk0C8a840Fafuk0C8aaw0Dafuk0E8a840Dast80E7x9g0Dast80E9q2s0D7k580E9q2s0Dafuk0E8a840Daf" ++
    "uk0E8a840Dast80E7x9g0Dast80E7x9g0Dast80E7x9g0Dast80E8a840Dafuk0E8a840Dafuk0E77c40Dc8nw0E6hes" ++
    "0Dc8nw0E6hes0Dc8nw0E6hes0Dc8nw0E6hes0Dc8nw0E6hes0Dc8nw0E6udg0Dc8nw0E6hes0Dc8nw0E6hes0Dc8nw0E" ++
    "6hes0Dc8nw0E6hes0Dc8nw0E6udg0Dc8nw0E6hes0Dbvp80C6uao0Fc8nw0C6hes0Fc8nw0C6hes0Fc8nw0C6hes0Fc8" ++
    "nw0C6udg0Fc8nw0C6hes0Fc8nw0C6hes0Fc8nw0C6hes0Fc8nw0C6hes0Fc8nw0C6udg0Fc8nw0C6hes0Fc8nw0C6hes" ++
    "0Fc8nw0C6hes0Fc8nw0C6hes0Fc8nw0C6hes0Fc8nw0C|CST6CDT,M3.2.0,M11.1.0"),
  ("America/Panama",
    "-19088,-19176,-18000|-15r0ulsB9jvmqgC|EST5"),
  ("America/Paramaribo",
    "-13240,-13252,-13236,-12600,-10800|-usj4g8Bcixc0cC5lydbkDkcrm6cErtftxjE|<-03>3"),
  ("America/Phoenix",
    "-26898,-21600d,-25200,-21600d,-25200|-18y0j80Ehxltk0Bast80C7x9g0Bast80Cbmtus0DzjedoC4olg0D9e" ++
    "t80Cbs6lmcB9cyk0C|MST7"),
  ("America/Port-au-Prince",
    "-17360,-17340,-14400d,-18000,-14400d,-18000|-15r0vxsBe4gmngDylcf6cC8zzw0D9d440C9cyk0D9d440C9" ++
    "cyk0D9d440C9cyk0D9d440C9cyk0D8aaw0Easw00F7x6o0Easw00F7x6o0Easw00F8a5c0Eafxc0F8a5c0Eafxc0F8a5" ++
    "c0Easw00F7x6o0Easw00F7x6o0Easw00F8a5c0Eafxc0F8a5c0Eafxc0F3vpjw0Cast80D7x9g0Cast80D2stv00Cc8n" ++
    "w0D6hes0Cc8nw0D6hes0Cc8nw0D6hes0Cc8nw0Dpkg40Cc8nw0D6hes0Cc8nw0D6hes0Cc8nw0D6hes0Cc8nw0D6udg0" ++
    "Cc8nw0D6hes0Cc8nw0D6hes0Cc8nw0D6hes0Cc8nw0D6hes0Cc8nw0D6hes0Cc8nw0D6udg0Cc8nw0D6hes0Cc8nw0D6" ++
    "hes0Cc8nw0D6hes0Cc8nw0D6hes0Cc8nw0D6udg0Cc8nw0D6hes0Cc8nw0D6hes0Cc8nw0D6hes0Cc8nw0D6hes0Cc8n" ++
    "w0D6hes0Cc8nw0D|EST5EDT,M3.2.0,M11.1.0"),
  ("America/Port_of_Spain",
    "-14764,-14400|-u6m79wB|AST4"),
  ("America/Porto_Velho",
    "-15336,-10800d,-14400|-t85g60C99k8i0B9a9c0C9io40B99980C8p65g0B6zuo0Cbs2o0B67zw0Ccjxg0B69uk0C" ++
    "cjxg0B4ml80C5mf440B49mk0Chaas0B316k0Ccls40B4ml80Ccls40B66580Ccls40B67zw0C981s40B6u7w0Cbiw40B" ++
    "5rbw0Cd0lg0B5ed80Cq2h7bjC|<-04>4"),
  ("America/Puerto_Rico",
    "-15865,-14400,-10800d,-10800d|-10xhp3bBmhp1jbD1ppu40C2dnc0B|AST4"),
  ("America/Punta_Arenas",
    "-17020,-16965,-18000,-14400,-14400d,-10800d,-14400,-10800|-15r0w78Bag6lahC3dlssrB157b79Df4e0" ++
    "rB49hzb9Eaye0rC7ves0Eawik0C7ves0Eawik0C7ves0Eawik0C7ves0Eayd80C7ves0D534ik0C351g0D24lbw0Eb25" ++
    "c0C2mg00Db73400F7k580Gc8tg0F6h980Ga31g0F7x3w0Gasys0F7x3w0Gb5xg0F7k580Gag040F8a2k0Gb5xg0F7k58" ++
    "0Gb5xg0F7x3w0Gasys0F7x3w0Gasys0F7x3w0Gb5xg0F7k580Gb5xg0F7k580Gb5xg0F7x3w0Gasys0F7x3w0Gasys0F" ++
    "7x3w0Gasys0F7x3w0Gb5xg0F7k580Gb5xg0F7k580Gb5xg0F9cyk0G9d440F7x3w0Gasys0F7x3w0Gb5xg0F7k580G9q" ++
    "2s0F8zzw0Gb5xg0F7x3w0Gasys0F7x3w0Gasys0F7x3w0Gasys0F7x3w0Gb5xg0F7k580Gb5xg0F8n180Ga31g0F7x3w" ++
    "0Ga31g0F9px80G9q2s0F7x3w0Gb5xg0F7k580Gb5xg0F7k580Gb5xg0F7k580Gb5xg0F7x3w0Gasys0F7x3w0Gasys0F" ++
    "7x3w0Gb5xg0F7k580Gb5xg0F8n180Ga31g0F7x3w0Gasys0F8zzw0G9q2s0Fast80G5eis0Fcyl80G6hes0Fc8nw0G6u" ++
    "dg0Fbvp80G6udg0Fvonw0G4olg0F5rbw0Hb0wwnjH|<-03>3"),
  ("America/Rankin_Inlet",
    "0,-18000d,-21600,-18000,-21600|-6s8lc0C7zza80B9cyk0C9d440B9cyk0C9d440B9cyk0C9d440B9cyk0C9d44" ++
    "0B9px80C905g0B9px80C9d440B9cyk0C9d440B9cyk0C9d440B9cyk0C9d440B9cyk0C9d440B9px80C905g0B9px80C" ++
    "9d440B9cyk0C9d440B9cyk0C9d440B9cyk0C8a840Bafuk0C8a840Bast80C7x9g0Bast80C7x9g0Bast80C8a840Baf" ++
    "uk0C8a840Bafuk0C8a840Bast80C7x9g0Bast80C7x9g0Bast80C8a840Bafuk0C8a840Bafuk0C8a840Bafuk0C8a84" ++
    "0Bast80C7x9g0Bast80D7x9g0Bast80C8a840Bafuk0C8a840Bafuk0C8a840Bast80C7x9g0Bast80C7x9g0Bast80C" ++
    "6udg0Bc8nw0C6hes0Bc8nw0C6hes0Bc8nw0C6udg0Bc8nw0C6hes0Bc8nw0C6hes0Bc8nw0C6hes0Bc8nw0C6hes0Bc8" ++
    "nw0C6hes0Bc8nw0C6udg0Bc8nw0C6hes0Bc8nw0C6hes0Bc8nw0C6hes0Bc8nw0C6hes0Bc8nw0C6udg0Bc8nw0C6hes" ++
    "0Bc8nw0C6hes0Bc8nw0C6hes0Bc8nw0C6hes0Bc8nw0C6hes0Bc8nw0C6udg0Bc8nw0C6hes0Bc8nw0C6hes0Bc8nw0C" ++
    "6hes0Bc8nw0C6hes0Bc8nw0C6udg0Bc8nw0C6hes0Bc8nw0C6hes0Bc8nw0C6hes0Bc8nw0C6hes0Bc8nw0C6hes0Bc8" ++
    "nw0C|CST6CDT,M3.2.0,M11.1.0"),
  ("America/Recife",
    "-8376,-7200d,-10800|-t85ljcC99kb3cB9a9c0C9io40B99980C8p65g0B6zuo0Cbs2o0B67zw0Ccjxg0B69uk0Ccj" ++
    "xg0B4ml80C5mf440B49mk0Chaas0B316k0Ccls40B4ml80Ccls40B66580Ccls40B67zw0C981s40B6u7w0Cbiw40B5r" ++
    "bw0Cd0lg0B5ed80Ccyqs0B5ed80Cdbpg0B64ak0C514g40B7k580Cbiw40Bcvw0Ciq5g0B6h980Ciqwe3jC|<-03>3"),
  ("America/Regina",
    "-25116,-21600d,-25200,-21600d,-21600d,-21600|-xkq9ycC6l1hmcBa2vw0C60enw0B7x3w0Casys0B7x3w0Ca" ++
    "sys0B7x3w0Cb5xg0B7k580Cb5xg0B7x3w0C1b6840B9cyk0C9d440B8zzw0C9q2s0B9cyk0C9q2s0B9cyk0C9d440B9c" ++
    "yk0C66gc0D1tz5k0E2dvo0Ca31g0B9cyk0Ca31g0B7x3w0Casys0B7x3w0Casys0B7x3w0Cb5xg0B7k580Cb5xg0B7x3" ++
    "w0Casys0B7x3w0Casys0B7x3w0Casys0B7x3w0Casys0B7x3w0Cb5xg0B7x3w0Casys0B7x3w0Ctj1g0B9cyk0C9d440" ++
    "F|CST6"),
  ("America/Resolute",
    "0,-18000d,-21600,-18000,-21600|-bnp9c0Ccvfy80B9cyk0C9d440B9cyk0C9d440B9cyk0C9d440B9cyk0C9d44" ++
    "0B9px80C905g0B9px80C9d440B9cyk0C9d440B9cyk0C9d440B9cyk0C9d440B9cyk0C9d440B9px80C905g0B9px80C" ++
    "9d440B9cyk0C9d440B9cyk0C9d440B9cyk0C8a840Bafuk0C8a840Bast80C7x9g0Bast80C7x9g0Bast80C8a840Baf" ++
    "uk0C8a840Bafuk0C8a840Bast80C7x9g0Bast80C7x9g0Bast80C8a840Bafuk0C8a840Bafuk0C8a840Bafuk0C8a84" ++
    "0Bast80C7x9g0Bast80D7x9g0Bast80C8a840Bafuk0C8a840Bafuk0C8a840Bast80C7x9g0Bast80C7x9g0Bast80D" ++
    "6udg0Bc8nw0C6hes0Bc8nw0C6hes0Bc8nw0C6udg0Bc8nw0C6hes0Bc8nw0C6hes0Bc8nw0C6hes0Bc8nw0C6hes0Bc8" ++
    "nw0C6hes0Bc8nw0C6udg0Bc8nw0C6hes0Bc8nw0C6hes0Bc8nw0C6hes0Bc8nw0C6hes0Bc8nw0C6udg0Bc8nw0C6hes" ++
    "0Bc8nw0C6hes0Bc8nw0C6hes0Bc8nw0C6hes0Bc8nw0C6hes0Bc8nw0C6udg0Bc8nw0C6hes0Bc8nw0C6hes0Bc8nw0C" ++
    "6hes0Bc8nw0C6hes0Bc8nw0C6udg0Bc8nw0C6hes0Bc8nw0C6hes0Bc8nw0C6hes0Bc8nw0C6hes0Bc8nw0C6hes0Bc8" ++
    "nw0C|CST6CDT,M3.2.0,M11.1.0"),
  ("America/Rio_Branco",
    "-16272,-14400d,-18000,-14400,-18000|-t85fg0C99kak0B9a9c0C9io40B99980C8p65g0B6zuo0Cbs2o0B67zw" ++
    "0Ccjxg0B69uk0Ccjxg0B4ml80C5mf440B49mk0Chaas0B316k0Ccls40B4ml80Ccls40B66580Ccls40B67zw0C981s4" ++
    "0B6u7w0Cbiw40B5rbw0Cd0lg0B5ed80Camves0D2t2t80CcmiwjjC|<-05>5"),
  ("America/Santarem",
    "-13128,-10800d,-14400,-10800|-t85hvcC99ka7cB9a9c0C9io40B99980C8p65g0B6zuo0Cbs2o0B67zw0Ccjxg0" ++
    "B69uk0Ccjxg0B4ml80C5mf440B49mk0Chaas0B316k0Ccls40B4ml80Ccls40B66580Ccls40B67zw0C981s40B6u7w0" ++
    "Cbiw40B5rbw0Cd0lg0B5ed80Camves0DfflsjjD|<-03>3"),
  ("America/Santiago",
    "-16965,-16965,-18000,-14400,-14400d,-10800d,-10800d,-14400|-15r0w8rBag6lc0C3dlssrB157b79Df4e" ++
    "0rB49hzb9Eaye0rC7ves0Eawik0C7ves0Eawik0C7ves0Eawik0C7ves0Eayd80C7ves0D534ik0C351g0D229zw0F2b" ++
    "980Eb2840C2mg00Db73400G7k580Hc8tg0G6h980Ha31g0G7x3w0Hasys0G7x3w0Hb5xg0G7k580Hag040G8a2k0Hb5x" ++
    "g0G7k580Hb5xg0G7x3w0Hasys0G7x3w0Hasys0G7x3w0Hb5xg0G7k580Hb5xg0G7k580Hb5xg0G7x3w0Hasys0G7x3w0" ++
    "Hasys0G7x3w0Hasys0G7x3w0Hb5xg0G7k580Hb5xg0G7k580Hb5xg0G9cyk0H9d440G7x3w0Hasys0G7x3w0Hb5xg0G7" ++
    "k580H9q2s0G8zzw0Hb5xg0G7x3w0Hasys0G7x3w0Hasys0G7x3w0Hasys0G7x3w0Hb5xg0G7k580Hb5xg0G8n180Ha31" ++
    "g0G7x3w0Ha31g0G9px80H9q2s0G7x3w0Hb5xg0G7k580Hb5xg0G7k580Hb5xg0G7k580Hb5xg0G7x3w0Hasys0G7x3w0" ++
    "Hasys0G7x3w0Hb5xg0G7k580Hb5xg0G8n180Ha31g0G7x3w0Hasys0G8zzw0H9q2s0Gast80H5eis0Gcyl80H6hes0Gc" ++
    "8nw0H6udg0Gbvp80H6udg0Gvonw0H4olg0Ge1h80H4olg0Ge1h80H4olg0Gc8nw0H7x9g0Gast80H7x9g0Gast80H7x9" ++
    "g0Gast80H8a840Gafuk0H7x9g0Gb5rw0H7x9g0Gast80H7x9g0Gast80H7x9g0Gast80H7x9g0Gast80H7x9g0Gb5rw0" ++
    "H7kas0Gb5rw0H7x9g0Gast80H7x9g0Gast80H7x9g0Gast80H7x9g0Gast80H7x9g0Gb5rw0H7kas0Gb5rw0H7x9g0Ga" ++
    "st80H7x9g0G6xxvjG|<-04>4<-03>,M9.1.6/24,M4.1.6/24"),
  ("America/Santo_Domingo",
    "-16776,-16800,-14400d,-18000,-16200d,-14400|-15r0we0BmkixcoDhiw29cC67zw0D1dy840E62ha0Dcnle0E" ++
    "4h2m0Delyq0E47ta0Dei9e0E4bim0Deek20E4dda0Decpe0Fdkmtg0D1stc0F|AST4"),
  ("America/Sao_Paulo",
    "-11188,-7200d,-10800|-t85jd8C99k8x8B9a9c0C9io40B99980C8p65g0B6zuo0Cbs2o0B67zw0Ccjxg0B69uk0Cc" ++
    "jxg0B4ml80C5k02s0B6onw0Chaas0B316k0Ccls40B4ml80Ccls40B66580Ccls40B67zw0C981s40B6u7w0Cbiw40B5" ++
    "rbw0Cd0lg0B5ed80Ccyqs0B5ed80Cdbpg0B64ak0Ccyqs0B64ak0Ccls40B5rbw0Cdbpg0B51ek0Cdbpg0B6h980Cc8t" ++
    "g0B6h980Cc8tg0B64ak0Cc8tg0B6u7w0Cbxpg0B7iak0Cbiw40B6u7w0Cbiw40B7k580Cbiw40B6u7w0Cc8tg0B6h980" ++
    "Cdbpg0B5ed80Ccls40B64ak0Cdfes0B5nmk0Cc8tg0B6h980Cdbpg0B5rbw0Cbvus0B6h980Ccls40B64ak0Ccls40B6" ++
    "h980Cc8tg0B6h980Cc8tg0B6u7w0Cc8tg0B64ak0Ccls40B64ak0Ccls40B6h980Cc8tg0B6h980Cc8tg0B6h980Cc8t" ++
    "g0B6h980Cdbpg0B5ed80C9vi8rjC|<-03>3"),
  ("America/Scoresbysund",
    "-5272,-7200,-3600d,-7200,-3600,0d,0d,-3600d,-7200|-rvurxkBx8ntpkC902o0D9cvs0G9cyk0E9d1c0F9d1" ++
    "c0E9d1c0F9d1c0E9d1c0F9q000E9d1c0F9d1c0E9d1c0F9d1c0E9d1c0F9d1c0E9d1c0F9d1c0E9d1c0F9d1c0E9d1c0" ++
    "F9q000E9d1c0F9d1c0E9d1c0F9d1c0E9d1c0F9d1c0E9d1c0F9d1c0E9d1c0F9d1c0E9q000Fasw00E7x6o0Fasw00E7" ++
    "x6o0Fasw00E7x6o0Fb5uo0E7k800Fb5uo0E7k800Fb5uo0E7x6o0Fasw00E7x6o0Fasw00E7x6o0Fb5uo0E7k800Fb5u" ++
    "o0E7k800Fb5uo0E7k800Fb5uo0E7x6o0Fasw00E7x6o0Fasw00E7x6o0Fb5uo0E7k800Fb5uo0E7k800Fb5uo0E7x6o0" ++
    "Fasw00E7x6o0Fasw00E7x6o0Fasw00E7x6o0Fb5uo0E7k800Fb5uo0E7k800Fb5uo0E7x6o0Fasw00E7x6o0Fasw00E7" ++
    "x6o0Fb5uo0E7k800Fb5uo0E7k800Fb5uo0E7x6o0Hasw00I7x6o0Hasw00I7x6o0Hasw00I7x6o0Hb5uo0I7k800Hb5u" ++
    "o0I7k800Hb5uo0I7x6o0Hasw00I7x6o0Hasw00I7x6o0Hb5uo0I7k800Hb5uo0I7k800Hb5uo0I7k800Hb5uo0I7x6o0" ++
    "Hasw00I7x6o0Hasw00I4ffjjI|<-02>2<-01>,M3.5.0/-1,M10.5.0/0"),
  ("America/Sitka",
    "53927,-32473,-28800,-25200d,-25200d,-25200d,-32400,-28800d,-32400|-1hc7qjzBh4yua0Cln701zD1tz" ++
    "2s0E2dyg0Ccawis0F9cyk0C9d440F9cyk0C9d440F9px80C9d440F9cyk0C9d440F9cyk0C3lpg0Ff4d80C64g40Fclm" ++
    "k0C9d440F9px80C905g0F9px80C9d440F9cyk0C9d440F9cyk0C9d440F9cyk0C9d440F9cyk0C9d440F9px80C905g0" ++
    "F9px80G1leo0I7rs80H9cyk0I9d440H9cyk0I9d440H9cyk0I8a840Hafuk0I8a840Hast80I7x9g0Hast80I7x9g0Ha" ++
    "st80I8a840Hafuk0I8a840Hafuk0I8a840Hast80I7x9g0Hast80I7x9g0Hast80I8a840Hafuk0I8a840Hafuk0I8a8" ++
    "40Hafuk0I8a840Hast80I7x9g0Hast80I7x9g0Hast80I8a840Hafuk0I8a840Hafuk0I8a840Hast80I7x9g0Hast80" ++
    "I7x9g0Hast80I6udg0Hc8nw0I6hes0Hc8nw0I6hes0Hc8nw0I6udg0Hc8nw0I6hes0Hc8nw0I6hes0Hc8nw0I6hes0Hc" ++
    "8nw0I6hes0Hc8nw0I6hes0Hc8nw0I6udg0Hc8nw0I6hes0Hc8nw0I6hes0Hc8nw0I6hes0Hc8nw0I6hes0Hc8nw0I6ud" ++
    "g0Hc8nw0I6hes0Hc8nw0I6hes0Hc8nw0I6hes0Hc8nw0I6hes0Hc8nw0I6hes0Hc8nw0I6udg0Hc8nw0I6hes0Hc8nw0" ++
    "I6hes0Hc8nw0I6hes0Hc8nw0I6hes0Hc8nw0I6udg0Hc8nw0I6hes0Hc8nw0I6hes0Hc8nw0I6hes0Hc8nw0I6hes0Hc" ++
    "8nw0I6hes0Hc8nw0I|AKST9AKDT,M3.2.0,M11.1.0"),
  ("America/St_Johns",
    "-12652,-9052d,-12652,-9000d,-12600,-9000d,-9000d,-5400d,-9000d|-18vs8wkChd05k0B8bx80Car440Ba" ++
    "2vw0C9tjs0B53980Cdkys0B9cyk0C9d440B9cyk0C9q2s0B8zzw0C9q2s0B8zzw0C9q2s0B8zzw0C9q2s0B8zzw0C9q2" ++
    "s0B9cyk0C9d440B9cyk0C9q2s0B8zzw0C9q2s0B8zzw0C9q2s0B8zzw0C9q2s0B8zzw0C9q2s0B9cyk0C9q2s0B8zzw0" ++
    "C9q2s0B8zzw0C7tmw0E1wfukD8zzw0Ea3480D7k580Eb5xg0D7k580Eb5xg0D7k580Ebiw40D776k0Ebiw40D7k580Eb" ++
    "5xg0D7k580Eb5xg0G1pb260F2dly0Ebiw40D7k580Eb5xg0D7k580Eb5xg0D7k580Eb5xg0D7k580Ebiw40D7k580Eag" ++
    "040D7x3w0Easys0D7x3w0Easys0D7x3w0Easys0D7x3w0Easys0D7x3w0Eb5xg0D7x3w0Easys0D7x3w0Easys0D7x3w" ++
    "0Easys0D7x3w0Easys0D9px80E9d440D9cyk0E9d440D9cyk0E9d440D9cyk0E9d440D9cyk0E9d440D9px80E905g0D" ++
    "9px80E9d440D9cyk0E9d440D9cyk0E9d440D9cyk0E9d440D9cyk0E9d440D9px80E9d440D9cyk0E9d440D9cyk0E9d" ++
    "440D9cyk0E9d440D9cyk0E9d440D9px80E905g0D9px80E9d440D9cyk0E9d440D9cyk0E9d440D9cyk0E9d440D9cyk" ++
    "0E9d440D9px80E905g0D9px80E9d440D9cyk0E9d440D9cyk0E9d440D9cyk0E8a2loDafuk0E8a840Hasqg0E7xc80D" ++
    "ast80E7x9g0Dast80E8a840Dafuk0E8a840Dafuk0E8a840Dast80E7x9g0Dast80E7x9g0Dast80E8a840Dafuk0E8a" ++
    "840Dafuk0E8a840Dafuk0E8a840Dast80E7x9g0Dast80E7x9g0Dast80E8a840Dafuk0E8a840Dafuk0E8a840Dast8" ++
    "0E7x9g0Dast80E7x9g0Dast80E6udg0Dc8nw0E6hes0Dc8nw0E6hes0Dc8nw0E6udg0Dc8nw0E6hes0Dc8tecE6hes0D" ++
    "c8nw0E6hes0Dc8nw0E6hes0Dc8nw0E6hes0Dc8nw0E6udg0Dc8nw0E6hes0Dc8nw0E6hes0Dc8nw0E6hes0Dc8nw0E6h" ++
    "es0Dc8nw0E6udg0Dc8nw0E6hes0Dc8nw0E6hes0Dc8nw0E6hes0Dc8nw0E6hes0Dc8nw0E6hes0Dc8nw0E6udg0Dc8nw" ++
    "0E6hes0Dc8nw0E6hes0Dc8nw0E6hes0Dc8nw0E6hes0Dc8nw0E6udg0Dc8nw0E6hes0Dc8nw0E6hes0Dc8nw0E6hes0D" ++
    "c8nw0E6hes0Dc8nw0E6hes0Dc8nw0E|NST3:30NDT,M3.2.0,M11.1.0"),
  ("America/St_Kitts",
    "-15052,-14400|-u6m71wB|AST4"),
  ("America/St_Lucia",
    "-14640,-14640,-14400|-15r0y1cBbh9s00C|AST4"),
  ("America/St_Thomas",
    "-15584,-14400|-uj7vz4B|AST4"),
  ("America/St_Vincent",
    "-14696,-14696,-14400|-15r0xzsBbh9s00C|AST4"),
  ("America/Swift_Current",
    "-25880,-21600d,-25200,-21600d,-21600d,-21600|-xkq9d4C6l1h14Ba2vw0Cc5jxg0D1tz5k0E2dvo0Casys0B" ++
    "8n180Ca31g0B7x3w0Casys0B7x3w0Casys0B7x3w0C3yles0B9cyk0Cs36s0B9cyk0C9d440B7x3w0Cb5xg0B7k580C5" ++
    "j4lg0F|CST6"),
  ("America/Tegucigalpa",
    "-20932,-18000d,-21600|-pfzh6kCyho0ikB7k580Cb5xg0B7k580C96x1g0B4qak0C|CST6"),
  ("America/Thule",
    "-16508,-10800d,-14400|-rvuj9gC12yzilgB9cyk0C9d440B9cyk0C9q2s0Bast80C7x9g0Bast80C7x9g0Bast80C" ++
    "8a840Bafuk0C8a840Bafuk0C8a840Bafuk0C8a840Bast80C7x9g0Bast80C7x9g0Bast80C8a840Bafuk0C8a840Baf" ++
    "uk0C8a840Bast80C7x9g0Bast80C7x9g0Bast80C6udg0Bc8nw0C6hes0Bc8nw0C6hes0Bc8nw0C6udg0Bc8nw0C6hes" ++
    "0Bc8nw0C6hes0Bc8nw0C6hes0Bc8nw0C6hes0Bc8nw0C6hes0Bc8nw0C6udg0Bc8nw0C6hes0Bc8nw0C6hes0Bc8nw0C" ++
    "6hes0Bc8nw0C6hes0Bc8nw0C6udg0Bc8nw0C6hes0Bc8nw0C6hes0Bc8nw0C6hes0Bc8nw0C6hes0Bc8nw0C6hes0Bc8" ++
    "nw0C6udg0Bc8nw0C6hes0Bc8nw0C6hes0Bc8nw0C6hes0Bc8nw0C6hes0Bc8nw0C6udg0Bc8nw0C6hes0Bc8nw0C6hes" ++
    "0Bc8nw0C6hes0Bc8nw0C6hes0Bc8nw0C6hes0Bc8nw0C|AST4ADT,M3.2.0,M11.1.0"),
  ("America/Tijuana",
    "-28084,-25200,-28800,-25200,-25200d,-25200d,-25200d,-28800|-p1u4k0B11juo0C1sm040D1si580C71s4" ++
    "0E9cyk0C5iidg0F1q6700G4qzk0C18uw40Eeluk0Coa5g0E7iak0Cb6300E7x3w0Casys0E7x3w0Casw00E7x6o0Casw" ++
    "00E7x6o0Casw00E7x6o0Cb5uo0E7x6o0Casw00E7x6o0Casw00E7x6o0Casw00E7x6o0Casw00E7x6o0Cb5uo0E7k800" ++
    "Cb5uo0E9d1c0C9d1c0E9d1c0C9d1c0E9d1c0C9d1c0E9q000C902o0E9q000C9d440E9cyk0C9d440E9cyk0C9d440E9" ++
    "cyk0C9d440E9cyk0C9d440E9px80C9d440E9cyk0C9d440E9cyk0C3lpg0Ef4d80C64g40Eclmk0C9d440E9px80C905" ++
    "g0E9px80C9d440E9cyk0C9d440E9cyk0C9d440E9cyk0C9d440E9cyk0C9d440E9px80C905g0E9px80C9d440E9cyk0" ++
    "C9d440E9cyk0C9d440E9cyk0C8a840Eafuk0C8a840East80C7x9g0East80C7x9g0East80C8a840Eafuk0C8a840Ea" ++
    "fuk0C8a840East80C7x9g0East80C7x9g0East80C8a840Eafuk0C8a840Eafuk0C8a840Eafuk0C8a840East80C7x9" ++
    "g0East80C7x9g0East80C8a840Eafuk0C8a840Eafuk0C8a840East80C7x9g0East80C7x9g0East80C7x9g0East80" ++
    "C8a840Eafuk0C8a840Eafuk0C77c40Ec8nw0C6hes0Ec8nw0C6hes0Ec8nw0C6hes0Ec8nw0C6hes0Ec8nw0C6hes0Ec" ++
    "8nw0C6udg0Ec8nw0C6hes0Ec8nw0C6hes0Ec8nw0C6hes0Ec8nw0C6hes0Ec8nw0C6udg0Ec8nw0C6hes0Ec8nw0C6he" ++
    "s0Ec8nw0C6hes0Ec8nw0C6hes0Ec8nw0C6hes0Ec8nw0C6udg0Ec8nw0C6hes0Ec8nw0C6hes0Ec8nw0C6hes0Ec8nw0" ++
    "C6hes0Ec8nw0C6udg0Ec8nw0C6hes0Ec8nw0C6hes0Ec8nw0C6hes0Ec8nw0C6hes0Ec8nw0C6hes0Ec8nw0C|PST8PD" ++
    "T,M3.2.0,M11.1.0"),
  ("America/Toronto",
    "-19052,-14400d,-18000,-14400d,-14400d|-1353dasCc5efesBa2vw0C7yx60Baqzy0C9q8c0B7jzo0Cbw0c0B6b" ++
    "p80Ccedg0B6h980Cc8tg0B6h980Cbvus0B776k0Cbiw40B776k0Cbiw40B776k0Cbiw40B7k580Cb5xg0B7x3w0Casys" ++
    "0B7x3w0Casys0B7x3w0Casys0B7x3w0Cb5xg0B7k580Cb5xg0B7x3w0Casys0B7x3w0Casys0B7x3w0Casys0B7x3w0C" ++
    "asys0B7x3w0Casys0B7x3w0Cb5xg0B7k580Cb5xg0Bxjeo0D1tzb40E2dq40Casys0B7x3w0Casys0B7x3w0Casys0B7" ++
    "x3w0Casys0Bb5rw0C7x9g0Bast80C7x9g0B7x3w0Casys0B7x3w0Casys0B7x3w0Casys0B7x3w0Casys0B7x3w0Cb5x" ++
    "g0B7x3w0Casys0B9cyk0C9d440B9cyk0C9d440B9cyk0C9d440B9px80C9d440B9cyk0C9d440B9cyk0C9d440B9cyk0" ++
    "C9d440B9cyk0C9d440B9px80C905g0B9px80C9d440B9cyk0C9d440B9cyk0C9d440B9cyk0C9d440B9cyk0C9d440B9" ++
    "px80C9d440B9cyk0C9d440B9cyk0C9d440B9cyk0C9d440B9cyk0C9d440B9px80C905g0B9px80C9d440B9cyk0C9d4" ++
    "40B9cyk0C9d440B9cyk0C9d440B9cyk0C9d440B9px80C905g0B9px80C9d440B9cyk0C9d440B9cyk0C9d440B9cyk0" ++
    "C8a840Bafuk0C8a840Bast80C7x9g0Bast80C7x9g0Bast80C8a840Bafuk0C8a840Bafuk0C8a840Bast80C7x9g0Ba" ++
    "st80C7x9g0Bast80C8a840Bafuk0C8a840Bafuk0C8a840Bafuk0C8a840Bast80C7x9g0Bast80C7x9g0Bast80C8a8" ++
    "40Bafuk0C8a840Bafuk0C8a840Bast80C7x9g0Bast80C7x9g0Bast80C6udg0Bc8nw0C6hes0Bc8nw0C6hes0Bc8nw0" ++
    "C6udg0Bc8nw0C6hes0Bc8nw0C6hes0Bc8nw0C6hes0Bc8nw0C6hes0Bc8nw0C6hes0Bc8nw0C6udg0Bc8nw0C6hes0Bc" ++
    "8nw0C6hes0Bc8nw0C6hes0Bc8nw0C6hes0Bc8nw0C6udg0Bc8nw0C6hes0Bc8nw0C6hes0Bc8nw0C6hes0Bc8nw0C6he" ++
    "s0Bc8nw0C6hes0Bc8nw0C6udg0Bc8nw0C6hes0Bc8nw0C6hes0Bc8nw0C6hes0Bc8nw0C6hes0Bc8nw0C6udg0Bc8nw0" ++
    "C6hes0Bc8nw0C6hes0Bc8nw0C6hes0Bc8nw0C6hes0Bc8nw0C6hes0Bc8nw0C|EST5EDT,M3.2.0,M11.1.0"),
  ("America/Tortola",
    "-15508,-14400|-uj7w18B|AST4"),
  ("America/Vancouver",
    "-29548,-25200d,-28800,-25200d,-25200d|-18vrvv8Chw36b8Ba2vw0Cc5jxg0D1tz2s0E2dyg0Casys0B7x3w0C" ++
    "asys0B7x3w0Casys0B7x3w0Casys0B7x3w0Cb5xg0B7k580Cb5xg0B7x3w0Casys0B7x3w0Casys0B7x3w0Casys0B7x" ++
    "3w0Casys0B7x3w0Cb5xg0B7x3w0Casys0B7x3w0Casys0B7x3w0Casys0B7x3w0Casys0B7x3w0Cb5xg0B7k580Cb5xg" ++
    "0B9cyk0C9d440B9cyk0C9d440B9cyk0C9d440B9px80C905g0B9px80C9d440B9cyk0C9d440B9cyk0C9d440B9cyk0C" ++
    "9d440B9cyk0C9d440B9px80C9d440B9cyk0C9d440B9cyk0C9d440B9cyk0C9d440B9cyk0C9d440B9px80C905g0B9p" ++
    "x80C9d440B9cyk0C9d440B9cyk0C9d440B9cyk0C9d440B9cyk0C9d440B9px80C905g0B9px80C9d440B9cyk0C9d44" ++
    "0B9cyk0C9d440B9cyk0C8a840Bafuk0C8a840Bast80C7x9g0Bast80C7x9g0Bast80C8a840Bafuk0C8a840Bafuk0C" ++
    "8a840Bast80C7x9g0Bast80C7x9g0Bast80C8a840Bafuk0C8a840Bafuk0C8a840Bafuk0C8a840Bast80C7x9g0Bas" ++
    "t80C7x9g0Bast80C8a840Bafuk0C8a840Bafuk0C8a840Bast80C7x9g0Bast80C7x9g0Bast80C6udg0Bc8nw0C6hes" ++
    "0Bc8nw0C6hes0Bc8nw0C6udg0Bc8nw0C6hes0Bc8nw0C6hes0Bc8nw0C6hes0Bc8nw0C6hes0Bc8nw0C6hes0Bc8nw0C" ++
    "6udg0Bc8nw0C6hes0Bc8nw0C6hes0Bc8nw0C6hes0Bc8nw0C6hes0Bc8nw0C6udg0Bc8nw0C6hes0Bc8nw0C6hes0Bc8" ++
    "nw0C6hes0Bc8nw0C6hes0Bc8nw0C6hes0Bc8nw0C6udg0Bc8nw0C6hes0Bc8nw0C6hes0Bc8nw0C6hes0Bc8nw0C6hes" ++
    "0Bc8nw0C6udg0Bc8nw0C6hes0Bc8nw0C6hes0Bc8nw0C6hes0Bc8nw0C6hes0Bc8nw0C6hes0Bc8nw0C|PST8PDT,M3." ++
    "2.0,M11.1.0"),
  ("America/Whitehorse",
    "-32412,-28800d,-32400,-28800d,-28800d,-25200d,-28800,-25200d,-25200|-1079tnoC97l6voBa2vw0Cas" ++
    "ys0B882c0Cbmiwc0D1tz000E2e180Ca7n3w0F9q000C64dc0G7e3pg0H9cyk0G9d440H9cyk0G9d440H9px80G905g0H" ++
    "9px80G9d440H9cyk0G9d440H9cyk0G9d440H9cyk0G8a840Hafuk0G8a840Hast80G7x9g0Hast80G7x9g0Hast80G8a" ++
    "840Hafuk0G8a840Hafuk0G8a840Hast80G7x9g0Hast80G7x9g0Hast80G8a840Hafuk0G8a840Hafuk0G8a840Hafuk" ++
    "0G8a840Hast80G7x9g0Hast80G7x9g0Hast80G8a840Hafuk0G8a840Hafuk0G8a840Hast80G7x9g0Hast80G7x9g0H" ++
    "ast80G6udg0Hc8nw0G6hes0Hc8nw0G6hes0Hc8nw0G6udg0Hc8nw0G6hes0Hc8nw0G6hes0Hc8nw0G6hes0Hc8nw0G6h" ++
    "es0Hc8nw0G6hes0Hc8nw0G6udg0Hc8nw0G6hes0Hc8nw0G6hes0Hc8nw0G6hes0Hc8nw0G6hes0Hc8ic0I|MST7"),
  ("America/Winnipeg",
    "-23316,-18000d,-21600,-18000d,-18000d,-18000d,-21600|-171bfccCf0j80cB7k580Ctj700Ba2vw0C9ok84" ++
    "0B6u7w0C2a5hg0D1tz8c0E2dsw0Cbiw40B7x3w0Ca31g0B7x3w0Casys0B7x3w0Casys0B7x3w0Cb7s40B7tek0Cautg" ++
    "0B7x3w0Casys0B7x3w0Casys0B7x3w0Casys0B7x3w0Casys0B7x3w0Cb5xg0B7x3w0Casys0B7x3w0Casys0B7x3w0C" ++
    "asys0B9cyk0C9d440B7x3w0C1cm2s0B7k580C1cm2s0F9q000G9d1c0F9d1c0G9d1c0F9d1c0G9d1c0F9d1c0G9d1c0F" ++
    "9d1c0G9d1c0F9q000G9d1c0F9d1c0G9d1c0F9d1c0G9d1c0F9d1c0G9d1c0F9d1c0G9d1c0F9q000G902o0F9q000G9d" ++
    "1c0F9d1c0G9d1c0F9d1c0G9d1c0F9d1c0G9d1c0F9d1c0G9d1c0F9q000G902o0F9q000G9d1c0F9d1c0G9d1c0F9d1c" ++
    "0G9d1c0F9d1c0G8a5c0Fafxc0G8a5c0Fasw00G7x6o0Fasw00G7x6o0Fasw00G8a5c0Fafxc0G8a5c0Fafxc0G8a5c0F" ++
    "asw00G7x6o0Fasw00G7x6o0Fasw00G8a5c0Fafxc0G8a5c0Fafxc0G8a5c0Fafxc0G8a5c0Fasw00G7x6o0Fasw00G7x" ++
    "6o0Fasw00G8a5c0Fafxc0G8a5c0Fafxc0G8a5c0Fasw00G7x6o0Fasw00G7x6o0Bast80C6udg0Bc8nw0C6hes0Bc8nw" ++
    "0C6hes0Bc8nw0C6udg0Bc8nw0C6hes0Bc8nw0C6hes0Bc8nw0C6hes0Bc8nw0C6hes0Bc8nw0C6hes0Bc8nw0C6udg0B" ++
    "c8nw0C6hes0Bc8nw0C6hes0Bc8nw0C6hes0Bc8nw0C6hes0Bc8nw0C6udg0Bc8nw0C6hes0Bc8nw0C6hes0Bc8nw0C6h" ++
    "es0Bc8nw0C6hes0Bc8nw0C6hes0Bc8nw0C6udg0Bc8nw0C6hes0Bc8nw0C6hes0Bc8nw0C6hes0Bc8nw0C6hes0Bc8nw" ++
    "0C6udg0Bc8nw0C6hes0Bc8nw0C6hes0Bc8nw0C6hes0Bc8nw0C6hes0Bc8nw0C6hes0Bc8nw0C|CST6CDT,M3.2.0,M1" ++
    "1.1.0"),
  ("America/Yakutat",
    "52865,-33535,-32400,-28800d,-28800d,-28800d,-28800d,-32400|-1hc7qjzBh4yv3iCln720hD1tz000E2e1" ++
    "80Ccawis0F9cyk0C9d440F9cyk0C9d440F9px80C9d440F9cyk0C9d440F9cyk0C3lpg0Ff4d80C64g40Fclmk0C9d44" ++
    "0F9px80C905g0F9px80C9d440F9cyk0C9d440F9cyk0C9d440F9cyk0C9d440F9cyk0C9d440F9px80C905g0F9px80C" ++
    "1lbw0H7rs80G9cyk0H9d440G9cyk0H9d440G9cyk0H8a840Gafuk0H8a840Gast80H7x9g0Gast80H7x9g0Gast80H8a" ++
    "840Gafuk0H8a840Gafuk0H8a840Gast80H7x9g0Gast80H7x9g0Gast80H8a840Gafuk0H8a840Gafuk0H8a840Gafuk" ++
    "0H8a840Gast80H7x9g0Gast80H7x9g0Gast80H8a840Gafuk0H8a840Gafuk0H8a840Gast80H7x9g0Gast80H7x9g0G" ++
    "ast80H6udg0Gc8nw0H6hes0Gc8nw0H6hes0Gc8nw0H6udg0Gc8nw0H6hes0Gc8nw0H6hes0Gc8nw0H6hes0Gc8nw0H6h" ++
    "es0Gc8nw0H6hes0Gc8nw0H6udg0Gc8nw0H6hes0Gc8nw0H6hes0Gc8nw0H6hes0Gc8nw0H6hes0Gc8nw0H6udg0Gc8nw" ++
    "0H6hes0Gc8nw0H6hes0Gc8nw0H6hes0Gc8nw0H6hes0Gc8nw0H6hes0Gc8nw0H6udg0Gc8nw0H6hes0Gc8nw0H6hes0G" ++
    "c8nw0H6hes0Gc8nw0H6hes0Gc8nw0H6udg0Gc8nw0H6hes0Gc8nw0H6hes0Gc8nw0H6hes0Gc8nw0H6hes0Gc8nw0H6h" ++
    "es0Gc8nw0H|AKST9AKDT,M3.2.0,M11.1.0")]

end MessageTemplate.Zone
